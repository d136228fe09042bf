import ForeignBindings.Generation

/-!
# Failures of commands

Why a command ends without doing its work.
-/

namespace ForeignBindings

/-- Why a command fails. -/
inductive CommandError where
  | generation (cause : GenerationError)
  | missingMetadata (path : String)
  | buildNotRun (program : String) (cause : FileError)
  | notWritten (path : String) (cause : FileError)
  | noWorkingDirectory (cause : FileError)
  deriving DecidableEq, Repr

/-- The wording of a cause. -/
def CommandError.message : CommandError → String
  | .generation cause => cause.message
  | .missingMetadata path => "no metadata at `" ++ path ++ "`"
  | .buildNotRun program cause => "failed to run `" ++ program ++ "`: " ++ cause.message
  | .notWritten path cause => "failed to write `" ++ path ++ "`: " ++ cause.message
  | .noWorkingDirectory cause => "cannot determine the working directory: " ++ cause.message

end ForeignBindings
