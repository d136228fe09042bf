import ForeignBindings.Files.Tree

/-!
# Native builds

The program that builds the native library and how it ends.
-/

namespace ForeignBindings

/-- How a build has ended. -/
inductive BuildOutcome where
  | succeeded
  /-- The build failed with an exit code, or with none if it was killed. -/
  | failed (code : Option Nat)
  deriving DecidableEq, Repr

namespace BuildOutcome

/-- The outcome of an exit code. -/
def ofExitCode : Nat → BuildOutcome
  | 0 => .succeeded
  | code => .failed (some code)

/-- The exit code to pass on. -/
def exitCode : BuildOutcome → Nat
  | .succeeded => 0
  | .failed code => code.getD 1

end BuildOutcome

/-- A program that builds the native library. -/
structure Builder where
  /-- The name of the program. -/
  program : String
  /-- What the program does to the files when it is run with arguments. -/
  run : List String → EStateM FileError FileTree BuildOutcome

/-- The arguments of a build. -/
def buildArguments (release : Bool) (extra : List String) : List String :=
  "build" :: (if release then ["--release"] else []) ++ extra

end ForeignBindings
