/-!
# Signals

The signals that end a program, by number and by name.
-/

namespace ForeignBindings
namespace Signal

/-- The names of the signals; the first one has number one. -/
def names : List String :=
  ["HUP", "INT", "QUIT", "ILL", "TRAP", "ABRT", "BUS", "FPE", "KILL", "USR1", "SEGV", "USR2",
    "PIPE", "ALRM", "TERM", "STKFLT", "CHLD", "CONT", "STOP", "TSTP", "TTIN", "TTOU", "URG",
    "XCPU", "XFSZ", "VTALRM", "PROF", "WINCH", "IO", "PWR", "SYS"]

/-- The name of a signal. -/
def name? : Nat → Option String
  | 0 => none
  | number + 1 => names[number]?

/-- The signal with a name. -/
def ofName? (name : String) : Option Nat :=
  (names.idxOf? name).map (· + 1)

/-- The signal to ask a program to end. -/
def termination : Nat := 15

/-- The signals that do not end a program that makes no provision for them: they tell of children,
of urgent input and of windows, or they stop and continue a program. -/
def harmlessNames : List String :=
  ["CHLD", "CONT", "STOP", "TSTP", "TTIN", "TTOU", "URG", "WINCH"]

/-- Whether a signal ends a program that makes no provision for it.  Zero is no signal. -/
def isFatal (number : Nat) : Bool :=
  number != 0 && !harmlessNames.contains ((name? number).getD "")

example : name? 9 = some "KILL" ∧ ofName? "KILL" = some 9 ∧ isFatal 9 = true := by decide

end Signal
end ForeignBindings
