import ForeignBindings.Files.Error
import ForeignBindings.Program.Signal
import ForeignBindings.Text.Utf8

/-!
# Programs

External programs as functions: what a program writes and how it ends, given its arguments and its
input.  An environment knows programs by name.
-/

namespace ForeignBindings

/-- How a program has ended. -/
inductive Ending where
  /-- By itself, with an exit code; zero stands for success. -/
  | exited (code : Nat)
  /-- By a signal. -/
  | killed (signal : Nat)
  deriving DecidableEq, Repr

namespace Ending

/-- Whether a program has done what it was asked for. -/
def succeeded (ending : Ending) : Bool := ending == .exited 0

/-- The number by which a shell tells endings apart. -/
def number : Ending → Nat
  | .exited code => code
  | .killed signal => 128 + signal

/-- The wording of an ending. -/
def text : Ending → String
  | .exited code => "exit status: " ++ String.ofList (Nat.toDigits 10 code)
  | .killed signal =>
      "signal: " ++ String.ofList (Nat.toDigits 10 signal) ++
        ((Signal.name? signal).map fun name => " (SIG" ++ name ++ ")").getD ""

end Ending

/-- How a program has run. -/
structure Completion where
  /-- How the program has ended. -/
  ending : Ending
  /-- What was written to the output. -/
  output : List UInt8
  /-- What was written to the error output. -/
  errors : List UInt8
  /-- The part of the input that was not read. -/
  unread : List UInt8
  deriving DecidableEq, Repr

/-- A program: arguments and input to completion. -/
abbrev Program := List String → List UInt8 → Completion

/-- The programs that an environment provides, by name, or why there is none to run. -/
abbrev Programs := String → Except FileError Program

/-- An environment without programs. -/
def Programs.none : Programs := fun _ => .error .notFound

/-- How many bytes a pipe holds for a reader that does not read. -/
def pipeCapacity : Nat := 65536

end ForeignBindings
