import ForeignBindings.Command.Emit
import ForeignBindings.Command.Generate
import ForeignBindings.Command.Locate
import ForeignBindings.CommandLine.Reading

/-!
# Invocations

The command that a command line asks for, with its options.
-/

namespace ForeignBindings
namespace CommandLine

/-- A command with its options. -/
inductive Command where
  | generate (options : GenerateOptions)
  | emit (options : EmitOptions)
  | locate (options : LocateOptions)
  deriving DecidableEq, Repr

/-- What a command line asks for. -/
structure Invocation where
  /-- The command. -/
  command : Command
  /-- How often more messages were asked for. -/
  verbosity : Nat
  deriving DecidableEq, Repr

/-- The most detailed messages that are shown at a verbosity. -/
def logLevel : Nat → String
  | 0 => "warn"
  | 1 => "info"
  | 2 => "debug"
  | _ => "trace"

/-- The names of the commands. -/
inductive CommandName where
  | generate
  | emit
  | locate
  deriving DecidableEq, Repr

namespace CommandName

/-- The command of a name. -/
def ofWord? : String → Option CommandName
  | "generate" => some .generate
  | "emit" => some .emit
  | "locate" => some .locate
  | _ => none

/-- The arguments of a command. -/
def grammar : CommandName → Grammar
  | .generate => .generate
  | .emit => .emit
  | .locate => .locate

end CommandName

/-- How the library is built and where it is loaded from, given the value of the release option: a
release that names no URL is local. -/
def target : Option String → Profile × LibraryLocation
  | none => (.debug, .targetDirectory .debug)
  | some url => (.release, if url.isEmpty then .targetDirectory .release else .remote url)

/-- The directory that bindings are written to unless another is given. -/
def defaultOutDirectory : String := "bindings"

/-- The command that complete arguments ask for. -/
def command (name : CommandName) (reading : Reading) (passedOn : List String) : Command :=
  let (profile, location) := target (reading.value? .release)
  match name with
  | .generate =>
      .generate
        { profile
          location
          outDirectory := (reading.value? .outDirectory).getD defaultOutDirectory
          lazyInit := reading.has .lazyInit
          build := !reading.has .noBuild
          formatter := ((reading.value? .formatter).bind FormatterChoice.ofName?).getD .deno
          extraArguments := passedOn }
  | .emit =>
      .emit
        { metadata := (reading.value? .metadata).getD ""
          profile
          location
          output := reading.value? .outFile
          lazyInit := reading.has .lazyInit }
  | .locate =>
      .locate
        { package := (reading.value? .package).getD ""
          profile
          location
          json := reading.has .json }

/-- Reads a command and its arguments.  Verbosity that is asked for after the command replaces what
was asked for before it. -/
def parseCommand (verbosity : Nat) (name : CommandName) (words : List String) :
    Except Fault Invocation := do
  let (reading, passedOn) ← readArguments name.grammar words
  return ⟨command name reading passedOn,
    if reading.verbosity = 0 then verbosity else reading.verbosity⟩

/-- Whether a word is the name of a command or asks for help. -/
def isCommandWord (word : String) : Bool :=
  word == "help" || (CommandName.ofWord? word).isSome

/-- Reads what help is asked for about: nothing, or one command. -/
def helpFault : List String → Fault
  | [] => .help
  | [word] => if isCommandWord word then .help else .unknownCommand
  | _ => .unknownCommand

/-- Why there is no command: the words have ended. -/
def endFault (verbosity : Nat) : Fault :=
  if verbosity = 0 then .nothingGiven else .missingCommand

/-- Why a word after two lone dashes is no command. -/
def escapedFault (verbosity : Nat) : List String → Fault
  | [] => endFault verbosity
  | word :: _ => if isCommandWord word then .unknownArgument else .unknownCommand

/-- Reads words up to the command and its arguments. -/
def parseWords (reading : Reading) : List String → Except Fault Invocation
  | [] => .error (endFault reading.verbosity)
  | "--" :: rest => .error (escapedFault reading.verbosity rest)
  | "help" :: rest => .error (helpFault rest)
  | word :: rest =>
      match CommandName.ofWord? word, word.toList with
      | some name, _ => parseCommand reading.verbosity name rest
      | none, '-' :: _ :: _ => do
          let next ← reading.readWord .common word
          parseWords next rest
      | none, _ => .error .unknownCommand

/-- Reads a command line without the name of the program. -/
def parse (words : List String) : Except Fault Invocation :=
  parseWords (.initial .common) words

end CommandLine
end ForeignBindings
