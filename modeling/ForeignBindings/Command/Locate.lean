import ForeignBindings.Library.View

/-!
# The locate command

Shows where the bindings will look for the library.
-/

namespace ForeignBindings

/-- What the locate command is asked to show. -/
structure LocateOptions where
  /-- The name of the package. -/
  package : String
  /-- How the library is built. -/
  profile : Profile
  /-- Where the library is loaded from. -/
  location : LibraryLocation
  /-- Whether JSON is printed instead of a table. -/
  json : Bool
  deriving DecidableEq, Repr

/-- The text that the command prints. -/
def LocateOptions.text (options : LocateOptions) : String :=
  let library := locate Platform.known options.package options.location options.profile
  if options.json then library.toJson.pretty ++ "\n" else library.table

end ForeignBindings
