import ForeignBindings.Json.Fault

/-!
# Faults of the wire formats

Why a value or a sequence of bytes does not cross the boundary, with the wording of each cause.
-/

namespace ForeignBindings

/-- Why a value cannot be encoded or decoded. -/
inductive WireError where
  | payloadTooLarge (size : Nat)
  | truncated (expected actual : Nat)
  | malformed (fault : Json.Fault)
  | shape (path expected : String)
  | nonFinite (path : String)
  | unknownType (name : String)
  | unknownVariant (path union variant : String)
  deriving DecidableEq, Repr

/-- The wording of a cause. -/
def WireError.message : WireError → String
  | .payloadTooLarge size =>
      "payload of " ++ toString size ++ " bytes does not fit a 32-bit length header"
  | .truncated expected actual =>
      "truncated frame: expected " ++ toString expected ++ " bytes, got " ++ toString actual
  | .malformed fault => "malformed structured text: " ++ fault.message
  | .shape path expected => "at `" ++ path ++ "`: expected " ++ expected
  | .nonFinite path => "at `" ++ path ++ "`: non-finite floats have no structured representation"
  | .unknownType name => "unknown type `" ++ name ++ "`"
  | .unknownVariant path union variant =>
      "at `" ++ path ++ "`: `" ++ variant ++ "` is not a variant of `" ++ union ++ "`"

end ForeignBindings
