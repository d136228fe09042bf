import ForeignBindings.Files.Error
import ForeignBindings.Glue.Emission
import ForeignBindings.Program
import ForeignBindings.Text.Blank
import ForeignBindings.Text.Utf8

/-!
# Formatting by a program

A formatter that pipes the text through a program and takes what the program writes.
-/

namespace ForeignBindings

/-- Why a program gives no formatted text. -/
inductive FormatError where
  | notRun (program : String) (cause : FileError)
  | failed (program : String) (ending : Ending) (complaint : String)
  | notUtf8 (program : String)
  deriving DecidableEq, Repr

/-- The wording of a cause. -/
def FormatError.message : FormatError → String
  | .notRun program cause => "failed to run `" ++ program ++ "`: " ++ cause.message
  | .failed program ending complaint =>
      "`" ++ program ++ "` exited with " ++ ending.text ++ ": " ++ complaint
  | .notUtf8 program => "`" ++ program ++ "` produced non-UTF-8 output"

/-- A program with the arguments that make it read a text and write it formatted. -/
structure CommandFormatter where
  /-- The name of the program. -/
  program : String
  /-- Its arguments. -/
  arguments : List String
  deriving DecidableEq, Repr

namespace CommandFormatter

/-- The formatter that comes with the host. -/
def deno : CommandFormatter := ⟨"deno", ["fmt", "--ext=ts", "-"]⟩

/-- The formatter that tells the language by the name of a file. -/
def dprint : CommandFormatter := ⟨"dprint", ["fmt", "--stdin", "bindings.ts"]⟩

/-- What the error output of a program says, without the blanks around it. -/
def complaint (errors : List UInt8) : String :=
  String.ofList (Text.trim (Text.ofUtf8Lossy errors).toList)

/-- Whether the system can take the name of the program and its arguments. -/
def isPassable (formatter : CommandFormatter) : Bool :=
  (formatter.program :: formatter.arguments).all fun word => !word.toList.contains '\x00'

/-- The program of a formatter, unless it cannot be run. -/
def resolve (formatter : CommandFormatter) (programs : Programs) : Except FileError Program :=
  if formatter.isPassable then programs formatter.program else .error .nulByte

/-- The text that a program makes of a text.  A failure of the program counts first, then input
that no pipe could hold for it, then the form of its output. -/
def format (formatter : CommandFormatter) (programs : Programs) : Glue.Formatter FormatError :=
  fun text =>
    match formatter.resolve programs with
    | .error cause => .error (.notRun formatter.program cause)
    | .ok program =>
        let completion := program formatter.arguments (Text.utf8 text)
        if !completion.ending.succeeded then
          .error (.failed formatter.program completion.ending (complaint completion.errors))
        else if pipeCapacity < completion.unread.length then
          .error (.notRun formatter.program .brokenPipe)
        else
          match Text.ofUtf8? completion.output with
          | some formatted => .ok formatted
          | none => .error (.notUtf8 formatter.program)

end CommandFormatter

/-- Which program formats the emitted module. -/
inductive FormatterChoice where
  | deno
  | dprint
  | none
  deriving DecidableEq, Repr

namespace FormatterChoice

/-- The choice that a name stands for. -/
def ofName? : String → Option FormatterChoice
  | "deno" => some .deno
  | "dprint" => some .dprint
  | "none" => some .none
  | _ => Option.none

/-- The formatter of a choice. -/
def formatter? : FormatterChoice → Option CommandFormatter
  | .deno => some .deno
  | .dprint => some .dprint
  | .none => Option.none

end FormatterChoice
end ForeignBindings
