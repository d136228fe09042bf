import ForeignBindings.Primitive

/-!
# Type references

What a signature or a field of a declaration mentions: a primitive type or a declared type by its
name.
-/

namespace ForeignBindings

/-- A reference to a type. -/
inductive TypeRef where
  | primitive (primitive : Primitive)
  | declared (name : String)
  deriving DecidableEq, Repr, Inhabited

namespace TypeRef

/-- The reference that a bare name makes: a primitive token wins over a declared name. -/
def ofName (name : String) : TypeRef :=
  match Primitive.ofToken? name with
  | some known => .primitive known
  | none => .declared name

/-- The name that a reference is written with. -/
def name : TypeRef → String
  | .primitive known => known.token
  | .declared name => name

/-- The primitive type that is referred to, if it is one. -/
def primitive? : TypeRef → Option Primitive
  | .primitive known => some known
  | .declared _ => none

end TypeRef
end ForeignBindings
