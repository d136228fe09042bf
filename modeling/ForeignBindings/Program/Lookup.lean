import ForeignBindings.Files.Standard
import ForeignBindings.Program.Tool

/-!
# Looking programs up

Programs stand at places among the files.  A name without a slash is looked for in one directory.
-/

namespace ForeignBindings
namespace Program

/-- The tools that can be started by a name, or why there is none. -/
abbrev Lookup := String → Except FileError Tool

namespace Lookup

/-- The directory where programs are looked for. -/
def directory : String := "/usr/bin"

/-- The directories that hold programs. -/
def directories : List Place := [["usr", "bin"], ["bin"]]

/-- The files of a system with tools. -/
def files (tools : List (String × Tool)) : FileTree :=
  let standard := FileTree.standard ["work"]
  let places := tools.flatMap fun tool => directories.map (· ++ [tool.1])
  { standard with
    nodes := standard.nodes ++ places.map fun place =>
      (place, .file { content := [], executable := true }) }

/-- The tool that a path leads to. -/
def atPath (tools : List (String × Tool)) (path : String) : Except FileError Tool := do
  match ← (files tools).find path with
  | (place, .file entry) =>
      match entry.executable, tools.lookup (place.getLast?.getD "") with
      | true, some tool => .ok tool
      | _, _ => .error .permissionDenied
  | _ => .error .permissionDenied

/-- The tool with a name or at a path. -/
def ofTools (tools : List (String × Tool)) : Lookup := fun name =>
  if name.isEmpty then .error .notFound
  else if name.toList.contains '/' then atPath tools name
  else atPath tools (Path.join directory name)

end Lookup
end Program
end ForeignBindings
