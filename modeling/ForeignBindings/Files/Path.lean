/-!
# Paths

Paths as texts and the steps that they spell out.  A step is the name between two slashes; `.` and
`..` are steps of their own, and repeated slashes count as one.
-/

namespace ForeignBindings
namespace Path

/-- The file of a name in a directory; the empty path stands for the directory itself. -/
def join (directory name : String) : String :=
  match directory.toList.getLast? with
  | none | some '/' => directory ++ name
  | some _ => directory ++ "/" ++ name

/-- Whether a path starts at the root. -/
def isRooted (path : String) : Bool :=
  path.toList.head? == some '/'

/-- Whether a path ends in a slash, so that it can name a directory only. -/
def endsInSlash (path : String) : Bool :=
  path.toList.getLast? == some '/'

/-- The bytes of a name that a directory can hold at most. -/
def nameLimit : Nat := 255

/-- Whether a name is too long for every directory. -/
def exceedsName (name : String) : Bool :=
  nameLimit < name.utf8ByteSize

/-- The bytes of a path that the system takes at most. -/
def pathLimit : Nat := 4095

/-- Whether a path is too long to be followed at all. -/
def exceedsPath (path : String) : Bool :=
  pathLimit < path.utf8ByteSize

/-- The parts of a text between slashes. -/
def parts : List Char → List (List Char)
  | [] => [[]]
  | letter :: rest =>
      match letter, parts rest with
      | '/', others => [] :: others
      | _, first :: others => (letter :: first) :: others
      | _, [] => [[letter]]

/-- The steps of a path. -/
def steps (path : String) : List String :=
  ((parts path.toList).filter (!·.isEmpty)).map String.ofList

end Path
end ForeignBindings
