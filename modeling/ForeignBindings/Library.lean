/-!
# Library locations

How a native library was built and where the emitted module loads it from.
-/

namespace ForeignBindings

/-- How a library is built. -/
inductive Profile where
  | debug
  | release
  deriving DecidableEq, Repr, Inhabited

/-- The name of a profile, which also names its build directory. -/
def Profile.name : Profile → String
  | .debug => "debug"
  | .release => "release"

/-- Where a library is loaded from. -/
inductive LibraryLocation where
  /-- A path relative to the emitted module. -/
  | localPath (path : String)
  /-- A base URL. -/
  | remote (url : String)
  deriving DecidableEq, Repr

namespace LibraryLocation

/-- The build directory of a profile, seen from a sibling directory. -/
def targetDirectory (profile : Profile) : LibraryLocation :=
  .localPath ("../target/" ++ profile.name)

instance : Inhabited LibraryLocation := ⟨targetDirectory .debug⟩

/-- The path or URL that file names are resolved against. -/
def base : LibraryLocation → String
  | .localPath path => path
  | .remote url => url

/-- Whether a library is loaded from a URL. -/
def isRemote : LibraryLocation → Bool
  | .localPath _ => false
  | .remote _ => true

end LibraryLocation
end ForeignBindings
