import ForeignBindings.Program.Filters
import ForeignBindings.Program.Patterns
import ForeignBindings.Program.Shell

/-!
# The usual environment

The programs that every system has, in the forms in which formatters are put together from them.
-/

namespace ForeignBindings
namespace Programs

open Program

/-- Starts a program with other variables. -/
def env (tools : Lookup) : Tool := fun call =>
  let assignment? (word : String) : Option (String × String) :=
    let name := word.toList.takeWhile (· != '=')
    if name.length < word.length then
      some (String.ofList name, String.ofList (word.toList.drop (name.length + 1)))
    else .none
  let assigned := call.arguments.filterMap assignment?
  match call.arguments.dropWhile fun word => (assignment? word).isSome with
  | [] => Tool.refusing "env: missing program" call
  | name :: arguments =>
      match tools (Octets.toText name) with
      | .ok tool => tool { call with arguments, environment := assigned ++ call.environment }
      | .error _ => ⟨.exited 127, [], ("env: '" ++ name ++ "': No such file or directory\n").toList, call.input⟩

/-- All tools; `depth` bounds how often they can start one another. -/
def tools : Nat → List (String × Tool)
  | 0 => filters ++ lineTools
  | depth + 1 =>
      let inner := Lookup.ofTools (tools depth)
      ("env", env inner) :: ("sh", Shell.tool inner) :: (filters ++ lineTools)

/-- How often programs can start one another. -/
def depthLimit : Nat := 4

/-- The variables that programs find. -/
def environment : List (String × String) := [("HOME", "/root"), ("PATH", Lookup.directory)]

/-- The program with a name or at a path. -/
def usual : Programs := fun name =>
  (Lookup.ofTools (tools depthLimit) name).map (Tool.program · environment)

end Programs
end ForeignBindings
