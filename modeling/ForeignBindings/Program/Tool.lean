import ForeignBindings.Program
import ForeignBindings.Program.Octets

/-!
# Tools

Programs that see octets and the variables of their environment.
-/

namespace ForeignBindings
namespace Program

/-- What a tool is started with. -/
structure Call where
  /-- The arguments. -/
  arguments : List String
  /-- The variables and their values. -/
  environment : List (String × String)
  /-- What can be read. -/
  input : List Char

/-- What a tool has done. -/
structure Effect where
  /-- How it has ended. -/
  ending : Ending
  /-- What was written to the output. -/
  output : List Char
  /-- What was written to the error output. -/
  errors : List Char
  /-- The part of the input that was not read. -/
  unread : List Char

/-- A program on octets. -/
abbrev Tool := Call → Effect

namespace Tool

/-- A tool that ends at once. -/
def exiting (code : Nat) : Tool := fun call => ⟨.exited code, [], [], call.input⟩

/-- A tool that writes something without reading. -/
def writing (content : List String → List Char) : Tool := fun call =>
  ⟨.exited 0, content call.arguments, [], call.input⟩

/-- A tool that refuses its arguments. -/
def refusing (complaint : String) : Tool := fun call =>
  ⟨.exited 2, [], (complaint ++ "\n").toList, call.input⟩

/-- A tool that reads all of its input and writes what its arguments make of it; it refuses
arguments that it does not know. -/
def filter (name : String) (change : List String → Option (List Char → List Char)) : Tool :=
  fun call =>
    match change call.arguments with
    | some change => ⟨.exited 0, change call.input, [], []⟩
    | none => refusing (name ++ ": unknown arguments") call

/-- A tool that reads the input line by line. -/
def lineFilter (name : String)
    (change : List String → Option (List (List Char) → List (List Char))) : Tool :=
  filter name fun words => (change words).map fun change input =>
    (change (Octets.lines input)).flatten

/-- A tool as a program, given its environment. -/
def program (tool : Tool) (environment : List (String × String)) : Program := fun arguments input =>
  let effect := tool ⟨arguments.map Octets.ofText, environment, Octets.ofBytes input⟩
  ⟨effect.ending, Octets.toBytes effect.output, Octets.toBytes effect.errors,
    Octets.toBytes effect.unread⟩

end Tool
end Program
end ForeignBindings
