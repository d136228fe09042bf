/-!
# File errors

Why an operation on files fails, with the wording of each cause.
-/

namespace ForeignBindings

/-- Why an operation on files fails. -/
inductive FileError where
  | notFound
  | alreadyExists
  | notDirectory
  | isDirectory
  | permissionDenied
  | nameTooLong
  | noSpace
  | noDevice
  | invalidUtf8
  /-- A pipe was closed before everything was written to it. -/
  | brokenPipe
  /-- A text for the system holds the character that ends its texts. -/
  | nulByte
  deriving DecidableEq, Repr

namespace FileError

/-- The wording of a cause without its number. -/
def phrase : FileError → String
  | .notFound => "No such file or directory"
  | .alreadyExists => "File exists"
  | .notDirectory => "Not a directory"
  | .isDirectory => "Is a directory"
  | .permissionDenied => "Permission denied"
  | .nameTooLong => "File name too long"
  | .noSpace => "No space left on device"
  | .noDevice => "No such device or address"
  | .invalidUtf8 => "stream did not contain valid UTF-8"
  | .brokenPipe => "Broken pipe"
  | .nulByte => "nul byte found in provided data"

/-- The number that the system gives to a cause; some causes are not the system's. -/
def number? : FileError → Option String
  | .notFound => some "2"
  | .alreadyExists => some "17"
  | .notDirectory => some "20"
  | .isDirectory => some "21"
  | .permissionDenied => some "13"
  | .nameTooLong => some "36"
  | .noSpace => some "28"
  | .noDevice => some "6"
  | .brokenPipe => some "32"
  | .invalidUtf8 | .nulByte => none

/-- The wording of a cause. -/
def message (cause : FileError) : String :=
  match cause.number? with
  | some number => cause.phrase ++ " (os error " ++ number ++ ")"
  | none => cause.phrase

end FileError
end ForeignBindings
