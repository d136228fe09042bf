import ForeignBindings.CommandLine.Fault
import ForeignBindings.CommandLine.Grammar

/-!
# Reading arguments

Words are read from left to right.  A value that stands in a word of its own is held back until the
next argument begins or the words end, and only then checked; so a later unknown argument is told
first, and an earlier missing value is told before anything that the next known argument says.
-/

namespace ForeignBindings
namespace CommandLine

/-- What has been read. -/
structure Reading where
  /-- The settings with their values; a flag has the empty value. -/
  given : List (Setting × String)
  /-- How often more messages were asked for. -/
  verbosity : Nat
  /-- The setting that is held back, with its value if that has been read. -/
  pending : Option (Setting × Option String)
  /-- What a word without a dash would say. -/
  positional : Option Setting
  deriving DecidableEq, Repr

namespace Reading

/-- The highest verbosity that is counted. -/
def maxVerbosity : Nat := 255

/-- Nothing has been read under a grammar. -/
def initial (grammar : Grammar) : Reading := ⟨[], 0, none, grammar.positional⟩

/-- The value of a setting. -/
def value? (reading : Reading) (setting : Setting) : Option String :=
  reading.given.lookup setting

/-- Whether a setting is given. -/
def has (reading : Reading) (setting : Setting) : Bool :=
  (reading.value? setting).isSome

/-- Stores the value of a setting. -/
def store (reading : Reading) (setting : Setting) (value : String) : Except Fault Reading :=
  if reading.has setting then .error .repeatedOption
  else if setting.accepts value then
    .ok { reading with given := reading.given ++ [(setting, value)] }
  else .error .invalidValue

/-- Stores what was held back. -/
def settle (reading : Reading) : Except Fault Reading :=
  match reading.pending with
  | none => .ok reading
  | some (_, none) => .error .invalidValue
  | some (setting, some value) => { reading with pending := none }.store setting value

/-- Takes a complete setting. -/
def take (reading : Reading) (setting : Setting) (value : String) : Except Fault Reading := do
  let settled ← reading.settle
  match setting with
  | .help => .error .help
  | .verbose => .ok { settled with verbosity := min (settled.verbosity + 1) maxVerbosity }
  | _ => settled.store setting value

/-- Holds back a setting whose value may follow. -/
def hold (reading : Reading) (setting : Setting) (value : Option String) :
    Except Fault Reading := do
  let settled ← reading.settle
  return { settled with pending := some (setting, value) }

/-- A text cut at its first equals sign. -/
def cutAtEquals (letters : List Char) : String × Option String :=
  let name := letters.takeWhile (· != '=')
  match letters.drop name.length with
  | [] => (String.ofList name, none)
  | _ :: value => (String.ofList name, some (String.ofList value))

/-- Reads what follows two dashes. -/
def readLong (grammar : Grammar) (reading : Reading) (letters : List Char) :
    Except Fault Reading :=
  let (name, value) := cutAtEquals letters
  match grammar.long.lookup name with
  | none => .error .unknownArgument
  | some setting =>
      match setting.valueRule, value with
      | .absent, none => reading.take setting ""
      | .absent, some _ => .error .unexpectedValue
      | .attached, _ => reading.take setting (value.getD "")
      | .required, some value => reading.take setting value
      | .required, none => reading.hold setting none

/-- Reads what follows one dash: flags, and at the end perhaps an option with its value. -/
def readShort (grammar : Grammar) (reading : Reading) : List Char → Except Fault Reading
  | [] => .ok reading
  | letter :: rest =>
      match grammar.short.lookup letter with
      | none => .error .unknownArgument
      | some setting =>
          match setting.valueRule, rest with
          | .required, [] => reading.hold setting none
          | .required, '=' :: value => reading.take setting (String.ofList value)
          | .required, value => reading.take setting (String.ofList value)
          | _, rest => do
              let taken ← reading.take setting ""
              readShort grammar taken rest

/-- Reads a word as what the positional argument says. -/
def readPositional (reading : Reading) (word : String) : Except Fault Reading :=
  match reading.positional with
  | none => .error .unknownArgument
  | some setting => { reading with positional := none }.hold setting (some word)

/-- Reads a word that starts no option: the value that an option waits for, or else the positional
argument. -/
def readValue (reading : Reading) (word : String) : Except Fault Reading :=
  match reading.pending with
  | some (setting, none) => .ok { reading with pending := some (setting, some word) }
  | _ => reading.readPositional word

/-- Reads one word other than two lone dashes; a single dash is a value. -/
def readWord (grammar : Grammar) (reading : Reading) (word : String) : Except Fault Reading :=
  match word.toList with
  | '-' :: '-' :: letters => reading.readLong grammar letters
  | '-' :: letter :: letters => reading.readShort grammar (letter :: letters)
  | _ => reading.readValue word

/-- Reads words up to two lone dashes, and gives the words after them. -/
def readWords (grammar : Grammar) (reading : Reading) :
    List String → Except Fault (Reading × List String)
  | [] => .ok (reading, [])
  | "--" :: rest => .ok (reading, rest)
  | word :: rest => do
      let next ← reading.readWord grammar word
      readWords grammar next rest

/-- Ends the reading: nothing is held back and nothing is missing. -/
def finish (reading : Reading) : Except Fault Reading := do
  let settled ← reading.settle
  if settled.positional.isSome then .error .missingArgument else return settled

end Reading

/-- Reads the arguments of a command, and gives the words that it passes on. -/
def readArguments (grammar : Grammar) (words : List String) :
    Except Fault (Reading × List String) := do
  let (reading, rest) ← (Reading.initial grammar).readWords grammar words
  if grammar.passesOn then
    return (← reading.finish, rest)
  let reading ← rest.foldlM Reading.readPositional reading
  return (← reading.finish, [])

end CommandLine
end ForeignBindings
