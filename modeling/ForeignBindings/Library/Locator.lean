import ForeignBindings.Library

/-!
# Locating a library

The names of library files by platform.  The naming scheme is a table: each platform has a leading
part, an extension and, for remote locations, a name for every architecture.
-/

namespace ForeignBindings

/-- One row of the naming scheme. -/
structure Platform where
  /-- The key that the loader uses. -/
  os : String
  /-- The name that a native build uses for the platform. -/
  buildOs : String
  /-- What file names start with. -/
  leading : String
  /-- The extension of file names. -/
  extension : String
  /-- The architectures with what follows the package name in their file names. -/
  arches : List (String × String)
  deriving DecidableEq, Repr

/-- The naming scheme of the common platforms. -/
def Platform.known : List Platform :=
  [⟨"darwin", "macos", "lib", "dylib", [("aarch64", "_arm64"), ("x86_64", "")]⟩,
    ⟨"linux", "linux", "lib", "so", []⟩,
    ⟨"windows", "windows", "", "dll", []⟩]

/-- The file name of a package on a platform. -/
def Platform.fileName (platform : Platform) (package suffix : String) : String :=
  platform.leading ++ package ++ suffix ++ "." ++ platform.extension

/-- Whether the loader may keep a downloaded library. -/
inductive CachePolicy where
  | none
  | store
  deriving DecidableEq, Repr

namespace CachePolicy

/-- Only a remote release is cached. -/
def ofLocation (location : LibraryLocation) (profile : Profile) : CachePolicy :=
  match location, profile with
  | .remote _, .release => .store
  | _, _ => .none

/-- The spelling of a policy in the emitted module. -/
def spelling : CachePolicy → String
  | .none => "CachePolicy.NONE"
  | .store => "CachePolicy.STORE"

end CachePolicy

/-- The file names of a platform. -/
inductive FileNames where
  /-- One file for every architecture. -/
  | single (file : String)
  /-- A file for each architecture. -/
  | perArch (files : List (String × String))
  deriving DecidableEq, Repr

/-- Everything that a loader needs to find a library. -/
structure LocatedLibrary where
  /-- The path or URL that file names are resolved against. -/
  base : String
  /-- The platforms with their file names. -/
  files : List (String × FileNames)
  /-- Whether a download is kept. -/
  policy : CachePolicy
  deriving DecidableEq, Repr

/-- The file names of a package on a platform; architectures count for remote locations only. -/
def Platform.fileNames (platform : Platform) (package : String) (location : LibraryLocation) :
    FileNames :=
  if location.isRemote && !platform.arches.isEmpty then
    .perArch (platform.arches.map fun arch => (arch.1, platform.fileName package arch.2))
  else .single (platform.fileName package "")

/-- Locates the library of a package. -/
def locate (platforms : List Platform) (package : String) (location : LibraryLocation)
    (profile : Profile) : LocatedLibrary :=
  { base := location.base
    files := platforms.map fun platform => (platform.os, platform.fileNames package location)
    policy := .ofLocation location profile }

/-- The file name that a native build produces, if its platform is known. -/
def localFileName? (platforms : List Platform) (package buildOs : String) : Option String :=
  (platforms.find? fun platform => platform.buildOs == buildOs).map fun platform =>
    platform.fileName package ""

end ForeignBindings
