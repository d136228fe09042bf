import ForeignBindings.Decl
import ForeignBindings.ModuleError

/-!
# Fixed layouts

The packed layout of a struct of scalars.  Every field sits at the least offset that is a multiple
of its own width and not before the end of the field before it.  The size is rounded up to the
greatest width, so the fields stay aligned when structs lie side by side.
-/

namespace ForeignBindings

/-- A field at its place in a fixed layout. -/
structure FieldSlot where
  /-- The name of the field. -/
  name : String
  /-- The scalar type of the field. -/
  primitive : Primitive
  /-- The offset of the first byte. -/
  offset : Nat
  deriving DecidableEq, Repr, Inhabited

/-- The width of the field; a layout has only slots of scalars. -/
def FieldSlot.width (slot : FieldSlot) : Nat :=
  slot.primitive.width?.getD 0

/-- The places of the fields of a struct. -/
structure Layout where
  /-- The fields in declaration order. -/
  slots : List FieldSlot
  /-- The number of bytes of a packed value. -/
  size : Nat
  /-- The greatest width of a field. -/
  align : Nat
  deriving DecidableEq, Repr, Inhabited

namespace Layout

/-- The least multiple of `align` that is not below `offset`. -/
def alignUp (offset align : Nat) : Nat :=
  (offset + align - 1) / align * align

/-- The scalar type and width of a field, or the fault that it is no fixed-width scalar. -/
def scalarField (typeName field : String) (type : TypeRef) :
    Except ModuleError (Primitive × Nat) :=
  match type with
  | .primitive primitive =>
      match primitive.width? with
      | some width => .ok (primitive, width)
      | none => .error (.fixedLayoutField typeName field)
  | .declared _ => .error (.fixedLayoutField typeName field)

/-- Places fields from an offset on; the result has the slots, the end of the last field and the
greatest of `align` and the widths. -/
def place (typeName : String) :
    List (String × TypeRef) → Nat → Nat → Except ModuleError (List FieldSlot × Nat × Nat)
  | [], offset, align => .ok ([], offset, align)
  | (field, type) :: rest, offset, align => do
      let (primitive, width) ← scalarField typeName field type
      let start := alignUp offset width
      let (slots, final, widest) ← place typeName rest (start + width) (max align width)
      return (⟨field, primitive, start⟩ :: slots, final, widest)

/-- The layout of a struct, or the first field that has no place in one. -/
def ofFields (typeName : String) (fields : Fields) : Except ModuleError Layout := do
  let (slots, final, align) ← place typeName fields.toList 0 1
  return ⟨slots, alignUp final align, align⟩

end Layout
end ForeignBindings
