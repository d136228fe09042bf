/-!
# Faults of command lines

Why a command line asks for nothing that can be run.
-/

namespace ForeignBindings
namespace CommandLine

/-- Why a command line cannot be run. -/
inductive Fault where
  /-- A value is missing, empty or none of the possible ones. -/
  | invalidValue
  /-- An option that counts once is given twice. -/
  | repeatedOption
  /-- A flag is given a value. -/
  | unexpectedValue
  | unknownArgument
  | missingArgument
  | missingCommand
  | unknownCommand
  /-- Help is asked for. -/
  | help
  /-- Nothing is given at all. -/
  | nothingGiven
  deriving DecidableEq, Repr

namespace Fault

/-- The wording of a fault. -/
def message : Fault → String
  | .invalidValue => "a value is missing or not allowed"
  | .repeatedOption => "an option is given twice"
  | .unexpectedValue => "a flag takes no value"
  | .unknownArgument => "unknown argument"
  | .missingArgument => "a required argument is missing"
  | .missingCommand => "a command is missing"
  | .unknownCommand => "unknown command"
  | .help => "help is asked for"
  | .nothingGiven => "nothing is given"

/-- The exit code that tells of a fault; asking for help is none. -/
def exitCode : Fault → Nat
  | .help => 0
  | _ => 2

end Fault
end CommandLine
end ForeignBindings
