import ForeignBindings.Library.Locator
import Mathlib.Data.List.Nodup

/-!
# Listings of a library

What the views of a located library have in common: the base, the policy and a list of files, each
for a platform and perhaps for one of its architectures.
-/

namespace ForeignBindings

/-- A file that a view lists. -/
structure ListedFile where
  /-- The platform that loads the file. -/
  os : String
  /-- The architecture that the file is for, if it is for one only. -/
  arch : Option String
  /-- The name of the file. -/
  name : String
  deriving DecidableEq, Repr

/-- What a view tells of a library. -/
structure Listing where
  /-- The path or URL that file names are resolved against. -/
  base : String
  /-- The spelling of the cache policy. -/
  policy : String
  /-- The files. -/
  files : List ListedFile
  deriving DecidableEq, Repr

/-- The files of a package on a platform: one for each architecture that is listed, if the package is
loaded from a URL, and otherwise one for all of them. -/
def Platform.listedFiles (package : String) (location : LibraryLocation) (platform : Platform) :
    List ListedFile :=
  if location.isRemote ∧ platform.arches ≠ [] then
    platform.arches.map fun arch => ⟨platform.os, some arch.1, platform.fileName package arch.2⟩
  else [⟨platform.os, none, platform.fileName package ""⟩]

/-- What there is to tell of the library of a package. -/
def Listing.ofPlatforms (platforms : List Platform) (package : String) (location : LibraryLocation)
    (profile : Profile) : Listing :=
  { base := location.base
    policy := (CachePolicy.ofLocation location profile).spelling
    files := platforms.flatMap (Platform.listedFiles package location) }

section Platforms

variable {platforms : List Platform} {platform : Platform} {package : String}
  {location : LibraryLocation} {file : ListedFile}

theorem os_of_mem_listedFiles (inside : file ∈ platform.listedFiles package location) :
    file.os = platform.os := by
  unfold Platform.listedFiles at inside
  split at inside
  case isTrue =>
    obtain ⟨arch, -, rfl⟩ := List.mem_map.mp inside
    rfl
  case isFalse =>
    obtain rfl := List.mem_singleton.mp inside
    rfl

/-- Every platform has a file. -/
theorem exists_mem_listedFiles (platform : Platform) (package : String) (location : LibraryLocation) :
    ∃ file, file ∈ platform.listedFiles package location := by
  rw [Platform.listedFiles]
  split
  case isTrue perArch =>
    obtain ⟨arch, known⟩ := List.exists_mem_of_ne_nil platform.arches perArch.2
    exact ⟨_, List.mem_map_of_mem known⟩
  case isFalse => exact ⟨_, List.mem_cons_self⟩

/-- Files for one architecture are listed exactly for the platforms that have architectures, and only
if the package is loaded from a URL. -/
theorem exists_arch_mem_files_iff (distinct : (platforms.map Platform.os).Nodup)
    (known : platform ∈ platforms) :
    (∃ arch name, ⟨platform.os, some arch, name⟩ ∈
        platforms.flatMap (Platform.listedFiles package location)) ↔
      location.isRemote ∧ platform.arches ≠ [] := by
  constructor
  · rintro ⟨arch, name, listed⟩
    obtain ⟨other, other_known, inside⟩ := List.mem_flatMap.mp listed
    obtain rfl : platform = other :=
      List.inj_on_of_nodup_map distinct known other_known (os_of_mem_listedFiles inside)
    by_contra apart
    rw [Platform.listedFiles, if_neg apart] at inside
    cases List.mem_singleton.mp inside
  · intro perArch
    obtain ⟨arch, known_arch⟩ := List.exists_mem_of_ne_nil platform.arches perArch.2
    refine ⟨arch.1, platform.fileName package arch.2, List.mem_flatMap.mpr ⟨platform, known, ?_⟩⟩
    rw [Platform.listedFiles, if_pos perArch]
    exact List.mem_map.mpr ⟨arch, known_arch, rfl⟩

end Platforms

/-- The files of a platform. -/
def FileNames.listed (os : String) : FileNames → List ListedFile
  | .single file => [⟨os, none, file⟩]
  | .perArch files => files.map fun file => ⟨os, some file.1, file.2⟩

/-- Whether no architecture is listed twice. -/
def FileNames.Distinct : FileNames → Prop
  | .single _ => True
  | .perArch files => (files.map Prod.fst).Nodup

/-- What a located library holds. -/
def LocatedLibrary.listing (library : LocatedLibrary) : Listing :=
  { base := library.base
    policy := library.policy.spelling
    files := library.files.flatMap fun platform => platform.2.listed platform.1 }

theorem listed_fileNames (platform : Platform) (package : String) (location : LibraryLocation) :
    (platform.fileNames package location).listed platform.os =
      platform.listedFiles package location := by
  unfold Platform.fileNames Platform.listedFiles
  have same : (location.isRemote && !platform.arches.isEmpty) = true ↔
      location.isRemote ∧ platform.arches ≠ [] := by
    rw [Bool.and_eq_true, Bool.not_eq_true', List.isEmpty_eq_false_iff]
  by_cases perArch : location.isRemote ∧ platform.arches ≠ []
  · rw [if_pos (same.mpr perArch), if_pos perArch, FileNames.listed, List.map_map]
    rfl
  · rw [if_neg (same.not.mpr perArch), if_neg perArch]
    rfl

theorem listing_locate (platforms : List Platform) (package : String) (location : LibraryLocation)
    (profile : Profile) :
    (locate platforms package location profile).listing =
      .ofPlatforms platforms package location profile := by
  rw [LocatedLibrary.listing, Listing.ofPlatforms, locate, List.flatMap_map]
  simp only [listed_fileNames]

end ForeignBindings
