import ForeignBindings.Json.Printer
import ForeignBindings.Library.Locator

/-!
# Views of a located library

A located library as a table of rows and as a JSON document.
-/

namespace ForeignBindings
namespace LocatedLibrary

/-- The rows of one platform; a file of one architecture has a key with both names. -/
def platformRows (platform : String × FileNames) : List (String × String) :=
  match platform.2 with
  | .single file => [(platform.1, file)]
  | .perArch files => files.map fun file => (platform.1 ++ "/" ++ file.1, file.2)

/-- The rows of the table: the base, the policy and every file. -/
def rows (library : LocatedLibrary) : List (String × String) :=
  ("base", library.base) :: ("policy", library.policy.spelling) ::
    library.files.flatMap platformRows

/-- The width of the key column: two more than the bytes of the longest key. -/
def keyWidth (rows : List (String × String)) : Nat :=
  (rows.map fun row => row.1.utf8ByteSize).foldr max 0 + 2

/-- A row whose key is padded to a number of characters. -/
def rowText (width : Nat) (row : String × String) : String :=
  row.1 ++ String.ofList (List.replicate (width - row.1.length) ' ') ++ row.2 ++ "\n"

/-- The table of a located library. -/
def table (library : LocatedLibrary) : String :=
  String.join (library.rows.map (rowText (keyWidth library.rows)))

/-- The file names of a platform as JSON. -/
def filesJson : FileNames → Json
  | .single file => .string file
  | .perArch files => .object (files.map fun file => (file.1, .string file.2))

/-- A located library as JSON. -/
def toJson (library : LocatedLibrary) : Json :=
  Json.normalize <| .object
    [("base", .string library.base),
      ("policy", .string library.policy.spelling),
      ("files", .object (library.files.map fun platform => (platform.1, filesJson platform.2)))]

end LocatedLibrary
end ForeignBindings
