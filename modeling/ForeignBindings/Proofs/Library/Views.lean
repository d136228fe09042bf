import ForeignBindings.Proofs.Library.Document
import ForeignBindings.Proofs.Library.Literal
import ForeignBindings.Proofs.Library.Table

/-!
# Agreement of the views of a library

The table, the document and the source text of a located library are read back as the same listing,
and that is the listing of the naming scheme.
-/

namespace ForeignBindings

/-- Whether a platform can be shown: every name stands on one line, its key does not look like that of
an architecture, and no architecture is listed twice. -/
structure Platform.IsShowable (platform : Platform) : Prop where
  os : '\n' ∉ platform.os.toList
  slash : '/' ∉ platform.os.toList
  leading : '\n' ∉ platform.leading.toList
  extension : '\n' ∉ platform.extension.toList
  arches : ∀ arch ∈ platform.arches, '\n' ∉ arch.1.toList ∧ '\n' ∉ arch.2.toList
  distinct : (platform.arches.map Prod.fst).Nodup

instance (platform : Platform) : Decidable platform.IsShowable :=
  decidable_of_iff
    ('\n' ∉ platform.os.toList ∧ '/' ∉ platform.os.toList ∧ '\n' ∉ platform.leading.toList ∧
      '\n' ∉ platform.extension.toList ∧
      (∀ arch ∈ platform.arches, '\n' ∉ arch.1.toList ∧ '\n' ∉ arch.2.toList) ∧
      (platform.arches.map Prod.fst).Nodup)
    ⟨fun ⟨os, slash, leading, extension, arches, distinct⟩ =>
      ⟨os, slash, leading, extension, arches, distinct⟩, fun showable =>
      ⟨showable.os, showable.slash, showable.leading, showable.extension, showable.arches,
        showable.distinct⟩⟩

section Locate

variable {platforms : List Platform} {platform : Platform} {package : String}
  {location : LibraryLocation}

namespace Platform.IsShowable

theorem lineFeed_not_mem_fileName (showable : platform.IsShowable)
    (package_whole : '\n' ∉ package.toList) {suffix : String} (suffix_whole : '\n' ∉ suffix.toList) :
    '\n' ∉ (platform.fileName package suffix).toList := by
  simp only [Platform.fileName, String.toList_append, List.mem_append, not_or]
  exact ⟨⟨⟨⟨showable.leading, package_whole⟩, suffix_whole⟩, by decide⟩, showable.extension⟩

theorem lineFeed_not_mem_listedFiles (showable : platform.IsShowable)
    (package_whole : '\n' ∉ package.toList) {file : ListedFile}
    (inside : file ∈ platform.listedFiles package location) :
    '\n' ∉ file.key.toList ∧ '\n' ∉ file.name.toList := by
  unfold Platform.listedFiles at inside
  split at inside
  case isTrue =>
    obtain ⟨arch, known, rfl⟩ := List.mem_map.mp inside
    obtain ⟨arch_whole, suffix_whole⟩ := showable.arches arch known
    refine ⟨?_, showable.lineFeed_not_mem_fileName package_whole suffix_whole⟩
    simp only [ListedFile.key, String.toList_append, List.mem_append, not_or]
    exact ⟨⟨showable.os, by decide⟩, arch_whole⟩
  case isFalse =>
    obtain rfl := List.mem_singleton.mp inside
    exact ⟨showable.os, showable.lineFeed_not_mem_fileName package_whole (by decide)⟩

theorem distinct_fileNames (showable : platform.IsShowable) :
    (platform.fileNames package location).Distinct := by
  unfold Platform.fileNames
  split
  case isTrue =>
    rw [FileNames.Distinct, List.map_map]
    exact showable.distinct
  case isFalse => trivial

end Platform.IsShowable

theorem lineFeed_not_mem_spelling (policy : CachePolicy) : '\n' ∉ policy.spelling.toList := by
  cases policy <;> decide

theorem head?_spelling_ne_blank (policy : CachePolicy) : policy.spelling.toList.head? ≠ some ' ' := by
  cases policy <;> decide

theorem onLines_listing (showable : ∀ platform ∈ platforms, platform.IsShowable)
    (package_whole : '\n' ∉ package.toList) (base_whole : '\n' ∉ location.base.toList)
    (profile : Profile) : (Listing.ofPlatforms platforms package location profile).OnLines := by
  have base_key : '\n' ∉ "base".toList := by decide
  have policy_key : '\n' ∉ "policy".toList := by decide
  refine List.forall_mem_cons.mpr ⟨⟨base_key, base_whole⟩, List.forall_mem_cons.mpr
    ⟨⟨policy_key, lineFeed_not_mem_spelling _⟩, List.forall_mem_map.mpr fun file inside => ?_⟩⟩
  obtain ⟨platform, known, inside⟩ := List.mem_flatMap.mp inside
  exact (showable platform known).lineFeed_not_mem_listedFiles package_whole inside

/-- A library can be read if its listing can, because every platform has a file. -/
theorem isReadable_locate (distinct : (platforms.map Platform.os).Nodup)
    (showable : ∀ platform ∈ platforms, platform.IsShowable) {profile : Profile} {wide : Text.WideLetters}
    (readable : (Listing.ofPlatforms platforms package location profile).IsReadable wide package) :
    (locate platforms package location profile).IsReadable wide package := by
  have listed {platform : Platform} (known : platform ∈ platforms) {file : ListedFile}
      (inside : file ∈ (platform.fileNames package location).listed platform.os) :
      file ∈ (Listing.ofPlatforms platforms package location profile).files :=
    List.mem_flatMap.mpr ⟨platform, known, listed_fileNames platform package location ▸ inside⟩
  refine ⟨readable.package, readable.base, List.forall_mem_map.mpr fun platform known => ?_,
    List.forall_mem_map.mpr fun platform known => ?_, ?_,
    List.forall_mem_map.mpr fun platform known => (showable platform known).distinct_fileNames⟩
  · obtain ⟨file, inside⟩ := exists_mem_listedFiles platform package location
    exact os_of_mem_listedFiles inside ▸ readable.keys file
      (List.mem_flatMap.mpr ⟨platform, known, inside⟩)
  · have files {file : ListedFile}
        (inside : file ∈ (platform.fileNames package location).listed platform.os) :=
      listed known inside
    dsimp only
    cases names : platform.fileNames package location with
    | single name =>
        rw [names] at files
        exact readable.names _ (files List.mem_cons_self)
    | perArch pairs =>
        rw [names] at files
        intro pair inside
        have held := files (List.mem_map_of_mem inside)
        exact ⟨readable.arches _ held _ rfl, readable.names _ held⟩
  · have names : (locate platforms package location profile).files.map Prod.fst =
        platforms.map Platform.os := List.map_map
    exact names ▸ distinct

theorem inColumns_locate (showable : ∀ platform ∈ platforms, platform.IsShowable)
    (package_whole : '\n' ∉ package.toList) (base_whole : '\n' ∉ location.base.toList)
    (profile : Profile) :
    let library := locate platforms package location profile
    (Listing.ofPlatforms platforms package location profile).InColumns
      (LocatedLibrary.keyWidth library.rows) library.table := by
  intro library
  have same := listing_locate platforms package location profile
  exact same ▸ inColumns_table (same ▸ onLines_listing showable package_whole base_whole profile)

/-- The table of a located library is read back, unless a key ends in a blank. -/
theorem ofTable?_locate (showable : ∀ platform ∈ platforms, platform.IsShowable)
    (package_whole : '\n' ∉ package.toList) (base_whole : '\n' ∉ location.base.toList)
    (profile : Profile)
    (visible : ∀ file ∈ (Listing.ofPlatforms platforms package location profile).files,
      file.key.toList.getLast? ≠ some ' ') :
    Listing.ofTable? (locate platforms package location profile).table =
      some (.ofPlatforms platforms package location profile) := by
  refine ofTable?_of_inColumns (inColumns_locate showable package_whole base_whole profile)
    (head?_spelling_ne_blank (CachePolicy.ofLocation location profile)) visible fun file inside => ?_
  obtain ⟨platform, known, inside⟩ := List.mem_flatMap.mp inside
  rw [os_of_mem_listedFiles inside]
  exact (showable platform known).slash

/-- The document of a located library is read back up to the order of the files. -/
theorem exists_ofDocument?_locate (distinct : (platforms.map Platform.os).Nodup)
    (showable : ∀ platform ∈ platforms, platform.IsShowable) (profile : Profile) :
    let listing := Listing.ofPlatforms platforms package location profile
    ∃ files, Listing.ofDocument? (locate platforms package location profile).toJson =
        some { listing with files } ∧ files.Perm listing.files := by
  intro listing
  have names : (locate platforms package location profile).files.map Prod.fst =
      platforms.map Platform.os := List.map_map
  rw [← names] at distinct
  have read := ofDocument?_toJson distinct <| List.forall_mem_map.mpr fun platform known =>
    (showable platform known).distinct_fileNames
  rwa [listing_locate] at read

/-- The views of a library show the same listing, which the naming scheme, the package, the location
and the profile determine: the lines of the table are its cells, with all values at one column; the
table is read back unless a key ends in a blank, which nothing tells from the padding; and the document
is read back up to the order of the files.  If all keys name identifiers, so is the source text of the
emitted module, but for the files of a platform or an architecture `__proto__`.  Files for one
architecture are listed exactly for the platforms that have architectures, if the location is
remote. -/
theorem views_agree (distinct : (platforms.map Platform.os).Nodup)
    (showable : ∀ platform ∈ platforms, platform.IsShowable) (package_whole : '\n' ∉ package.toList)
    (base_whole : '\n' ∉ location.base.toList) (profile : Profile) :
    let library := locate platforms package location profile
    let listing := Listing.ofPlatforms platforms package location profile
    (∃ column, listing.InColumns column library.table) ∧
      ((∀ file ∈ listing.files, file.key.toList.getLast? ≠ some ' ') →
        Listing.ofTable? library.table = some listing) ∧
      (∃ files, Listing.ofDocument? library.toJson = some { listing with files } ∧
        files.Perm listing.files) ∧
      (∀ wide, listing.IsReadable wide package →
        ∃ source, SourceListing.ofText? wide (Glue.libraryText package library) = some source ∧
          source = Listing.inUnits { listing with files := listing.files.filter fun file =>
            file.os ≠ "__proto__" ∧ file.arch ≠ some "__proto__" } ∧
          (source = listing.inUnits ↔
            ∀ file ∈ listing.files, file.os ≠ "__proto__" ∧ file.arch ≠ some "__proto__")) ∧
      ∀ platform ∈ platforms,
        (∃ arch name, ⟨platform.os, some arch, name⟩ ∈ listing.files) ↔
          location.isRemote ∧ platform.arches ≠ [] := by
  intro library listing
  refine ⟨⟨_, inColumns_locate showable package_whole base_whole profile⟩,
    ofTable?_locate showable package_whole base_whole profile,
    exists_ofDocument?_locate distinct showable profile, fun wide readable => ?_,
    fun platform known => exists_arch_mem_files_iff distinct known⟩
  have read := ofText?_libraryText (isReadable_locate distinct showable readable)
  rw [LocatedLibrary.kept, listing_locate] at read
  refine ⟨_, read, rfl, ?_⟩
  rw [Listing.inUnits, Listing.inUnits, SourceListing.mk.injEq,
    (ListedFile.inUnits_injective.list_map).eq_iff, List.filter_eq_self]
  simp only [decide_eq_true_eq]
  exact ⟨fun all => all.2.2, fun all => ⟨rfl, rfl, all⟩⟩

end Locate

/-- A naming scheme with a key beyond ASCII and with architectures. -/
def Platform.greekAndDarwin : List Platform :=
  [⟨"λinux", "linux", "lib", "so", []⟩,
    ⟨"darwin", "macos", "lib", "dylib", [("x86_64", ""), ("aarch64", "_arm64")]⟩]

/-- The letter beyond ASCII that stands in that scheme. -/
def Text.WideLetters.lambda : Text.WideLetters :=
  ⟨(· == 'λ'), (· == 'λ')⟩

theorem isReadable_greekAndDarwin :
    (Listing.ofPlatforms Platform.greekAndDarwin "demo" (.remote "https://example.org")
      .release).IsReadable .lambda "demo" := by
  have linux : Text.IsIdentifierName .lambda "λinux" :=
    ⟨'λ', "inux".toList, by decide, by decide, List.all_eq_true.mp (by decide)⟩
  have plain {name : String} (identifier : Name.isIdentifier name) :
      Text.IsIdentifierName .lambda name :=
    Text.isIdentifierName_of_isIdentifier identifier _
  have darwin : Text.IsIdentifierName .lambda "darwin" := plain (by decide)
  refine ⟨by decide, by decide, by decide, ?_, ?_⟩
  · exact List.forall_mem_cons.mpr ⟨linux, List.forall_mem_cons.mpr
      ⟨darwin, List.forall_mem_singleton.mpr darwin⟩⟩
  · refine List.forall_mem_cons.mpr ⟨nofun, List.forall_mem_cons.mpr
      ⟨?_, List.forall_mem_singleton.mpr ?_⟩⟩
    · rintro _ ⟨⟩
      exact plain (by decide)
    · rintro _ ⟨⟩
      exact plain (by decide)

/-- The views show the files of both platforms, one of them for each architecture. -/
theorem views_agree_greekAndDarwin :
    (Platform.greekAndDarwin.map Platform.os).Nodup ∧
      (∀ platform ∈ Platform.greekAndDarwin, platform.IsShowable) ∧
      '\n' ∉ "demo".toList ∧ '\n' ∉ (LibraryLocation.remote "https://example.org").base.toList ∧
      let library := locate Platform.greekAndDarwin "demo" (.remote "https://example.org") .release
      let listing : Listing := ⟨"https://example.org", "CachePolicy.STORE",
        [⟨"λinux", none, "libdemo.so"⟩, ⟨"darwin", some "x86_64", "libdemo.dylib"⟩,
          ⟨"darwin", some "aarch64", "libdemo_arm64.dylib"⟩]⟩
      (∃ column, listing.InColumns column library.table) ∧
        Listing.ofTable? library.table = some listing ∧
        (∃ files, Listing.ofDocument? library.toJson = some { listing with files } ∧
          files.Perm listing.files) ∧
        SourceListing.ofText? .lambda (Glue.libraryText "demo" library) = some listing.inUnits := by
  have distinct : (Platform.greekAndDarwin.map Platform.os).Nodup := by decide
  have showable : ∀ platform ∈ Platform.greekAndDarwin, platform.IsShowable := by decide
  have package_whole : '\n' ∉ "demo".toList := by decide
  have base_whole : '\n' ∉ (LibraryLocation.remote "https://example.org").base.toList := by
    simp [LibraryLocation.base]
  obtain ⟨columns, table, document, source, -⟩ :=
    views_agree distinct showable package_whole base_whole .release
  obtain ⟨view, read, -, whole⟩ := source .lambda isReadable_greekAndDarwin
  exact ⟨distinct, showable, package_whole, base_whole, columns, table (by decide), document,
    read.trans (congrArg some (whole.mpr (by decide)))⟩

/-- A naming scheme with a platform that is named by two words. -/
def Platform.musl : List Platform :=
  [⟨"linux-musl", "linux", "lib", "so", []⟩]

/-- The table and the document list the file of that platform.  In the source text the name of an
identifier in front of a hyphen is no key, so the table of files is no object initializer. -/
theorem source_of_hyphenated_platform_is_malformed :
    (Platform.musl.map Platform.os).Nodup ∧
      (∀ platform ∈ Platform.musl, platform.IsShowable) ∧
      let library := locate Platform.musl "d" (.remote "https://example.org") .release
      let listing : Listing :=
        ⟨"https://example.org", "CachePolicy.STORE", [⟨"linux-musl", none, "libd.so"⟩]⟩
      Listing.ofTable? library.table = some listing ∧
        (∃ files, Listing.ofDocument? library.toJson = some { listing with files } ∧
          files.Perm listing.files) ∧
        ∀ wide, SourceListing.ofText? wide (Glue.libraryText "d" library) = none := by
  have distinct : (Platform.musl.map Platform.os).Nodup := by decide
  have showable : ∀ platform ∈ Platform.musl, platform.IsShowable := by decide
  have base_whole : '\n' ∉ (LibraryLocation.remote "https://example.org").base.toList := by
    simp [LibraryLocation.base]
  refine ⟨distinct, showable, ?_, ?_, fun wide => ?_⟩
  · exact ofTable?_locate showable (by decide) base_whole .release (by decide)
  · exact exists_ofDocument?_locate distinct showable .release
  · let library := locate Platform.musl "d" (.remote "https://example.org") .release
    have files : library.files = [("linux-musl", .single "libd.so")] := by decide
    have identifier : Text.IsIdentifierName wide "linux" :=
      Text.isIdentifierName_of_isIdentifier (by decide) wide
    have broken : Text.ObjectLiteral.IsEntry wide (fileValue? wide)
        (platformEntry ("linux-musl", .single "libd.so")) none :=
      Text.ObjectLiteral.isEntry_none_of_isIdentifierName identifier
        (rfl : wide.follows '-' = false) rfl (by decide) _
    have each : ∀ platform ∈ library.files,
        Text.ObjectLiteral.IsEntry wide (fileValue? wide) (platformEntry platform) none := by
      rw [files]
      exact List.forall_mem_singleton.mpr broken
    exact ofText?_eq_none (by decide) (by decide) each (by rw [files]; rfl)

end ForeignBindings
