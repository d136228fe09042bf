import ForeignBindings.ByteOrder
import ForeignBindings.Layout
import ForeignBindings.Wire.Error

/-!
# Packed values

A struct with a fixed layout crosses the boundary as bytes: every field at its slot, integers in
two's complement, floating-point numbers by their bit patterns, padding zero.  Packing checks that
each value fits its scalar type; unpacking refuses bit patterns that stand for no number.
-/

namespace ForeignBindings
namespace Fixed

/-- The two's complement of a signed integer in `width` bytes, if it reads back. -/
def signedPattern? (width : Nat) (value : Int) : Option Nat :=
  let count := ByteOrder.patternCount width
  if value.bmod count = value then some (value % (count : Int)).toNat else none

/-- The pattern of an unsigned integer in `width` bytes, if there is one. -/
def unsignedPattern? (width value : Nat) : Option Nat :=
  if value < ByteOrder.patternCount width then some value else none

/-- The bit pattern of a value of a scalar type, if the value fits the type. -/
def pattern? (primitive : Primitive) (value : Json) : Option Nat :=
  match primitive with
  | .i8 => value.asSigned?.bind (signedPattern? 1)
  | .i16 => value.asSigned?.bind (signedPattern? 2)
  | .i32 => value.asSigned?.bind (signedPattern? 4)
  | .i64 | .isize => value.asSigned?.bind (signedPattern? 8)
  | .u8 => value.asUnsigned?.bind (unsignedPattern? 1)
  | .u16 => value.asUnsigned?.bind (unsignedPattern? 2)
  | .u32 => value.asUnsigned?.bind (unsignedPattern? 4)
  | .u64 | .usize => value.asUnsigned?.bind (unsignedPattern? 8)
  | .f32 => value.number?.map fun number => BinaryFormat.double.convert .single number.doubleBits
  | .f64 => value.number?.map Json.Number.doubleBits
  | .void | .str | .buffer | .bufferMut | .ptr => none

/-- The number that a pattern of `width` bytes stands for in two's complement. -/
def signedNumber? (width pattern : Nat) : Option Json.Number :=
  Json.Number.ofInt? ((pattern : Int).bmod (ByteOrder.patternCount width))

/-- The number that a bit pattern of a scalar type stands for; infinities and NaNs are none. -/
def number? (primitive : Primitive) (pattern : Nat) : Option Json.Number :=
  match primitive with
  | .i8 => signedNumber? 1 pattern
  | .i16 => signedNumber? 2 pattern
  | .i32 => signedNumber? 4 pattern
  | .i64 | .isize => signedNumber? 8 pattern
  | .u8 | .u16 | .u32 | .u64 | .usize => Json.Number.ofInt? pattern
  | .f32 =>
      if BinaryFormat.single.isFinite pattern then
        Json.Number.ofBits? (BinaryFormat.single.convert .double pattern)
      else none
  | .f64 => Json.Number.ofBits? pattern
  | .void | .str | .buffer | .bufferMut | .ptr => none

/-- The path of a field in a message. -/
def fieldPath (slot : FieldSlot) : String :=
  "$." ++ slot.name

/-- The fault of a missing or misfitting field. -/
def mismatch (slot : FieldSlot) : WireError :=
  .shape (fieldPath slot) ("`" ++ slot.primitive.token ++ "`")

/-- A buffer with some of its bytes replaced from an offset on. -/
def overwrite (buffer : List UInt8) (offset : Nat) (bytes : List UInt8) : List UInt8 :=
  buffer.take offset ++ bytes ++ buffer.drop (offset + bytes.length)

/-- A part of a buffer. -/
def slice (bytes : List UInt8) (offset count : Nat) : List UInt8 :=
  (bytes.drop offset).take count

/-- Writes the fields of an object to their slots one after the other. -/
def packSlots (order : ByteOrder) (members : List (String × Json)) :
    List FieldSlot → List UInt8 → Except WireError (List UInt8)
  | [], buffer => .ok buffer
  | slot :: rest, buffer =>
      match (Json.member? members slot.name).bind (pattern? slot.primitive) with
      | none => .error (mismatch slot)
      | some pattern =>
          packSlots order members rest
            (overwrite buffer slot.offset (order.bytes slot.width pattern))

/-- The packed bytes of an object that holds every field. -/
def pack (layout : Layout) (order : ByteOrder) (value : Json) : Except WireError (List UInt8) :=
  match value with
  | .object members => packSlots order members layout.slots (List.replicate layout.size 0)
  | _ => .error (.shape "$" "object")

/-- The fault of a slot whose bytes stand for no number: they are an infinity or a NaN, or the type of
the slot has no packed form. -/
def unreadable (slot : FieldSlot) : WireError :=
  if slot.primitive.width?.isSome then .nonFinite (fieldPath slot) else mismatch slot

/-- Reads one field from its slot. -/
def unpackSlot (order : ByteOrder) (bytes : List UInt8) (slot : FieldSlot) :
    Except WireError (String × Json) :=
  match number? slot.primitive (order.number (slice bytes slot.offset slot.width)) with
  | some number => .ok (slot.name, .number number)
  | none => .error (unreadable slot)

/-- The object whose packed bytes are given; bytes after its size are ignored. -/
def unpack (layout : Layout) (order : ByteOrder) (bytes : List UInt8) : Except WireError Json :=
  if bytes.length < layout.size then .error (.truncated layout.size bytes.length)
  else do
    let members ← layout.slots.mapM (unpackSlot order bytes)
    return .object (Json.normalizeMembers members)

end Fixed
end ForeignBindings
