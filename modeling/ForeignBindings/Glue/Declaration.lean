import ForeignBindings.ByteOrder
import ForeignBindings.HostType

/-!
# Emitted type declarations

The declarations of an emitted module as data: interfaces with their members, type aliases for
unions, precomputed text, and for every packed type the accesses that its two helper functions make
to a view of the packed bytes.
-/

namespace ForeignBindings
namespace Glue

/-- The accessors of a data view, by what stands after `get` or `set`. -/
inductive ViewMethod where
  | int8
  | uint8
  | int16
  | uint16
  | int32
  | uint32
  | bigInt64
  | bigUint64
  | float32
  | float64
  deriving DecidableEq, Repr

namespace ViewMethod

/-- The spelling of an accessor after `get` or `set`. -/
def spelling : ViewMethod → String
  | .int8 => "Int8"
  | .uint8 => "Uint8"
  | .int16 => "Int16"
  | .uint16 => "Uint16"
  | .int32 => "Int32"
  | .uint32 => "Uint32"
  | .bigInt64 => "BigInt64"
  | .bigUint64 => "BigUint64"
  | .float32 => "Float32"
  | .float64 => "Float64"

/-- The accessor for a scalar type; other types have no place in a layout. -/
def ofPrimitive : Primitive → ViewMethod
  | .i8 => .int8
  | .u8 => .uint8
  | .i16 => .int16
  | .u16 => .uint16
  | .i32 => .int32
  | .u32 => .uint32
  | .i64 | .isize => .bigInt64
  | .u64 | .usize => .bigUint64
  | .f32 => .float32
  | .f64 => .float64
  | .void | .str | .buffer | .bufferMut | .ptr => .uint8

end ViewMethod

/-- The little-endian argument of an access; single bytes have no byte order and take none. -/
def endianArgument (primitive : Primitive) (order : ByteOrder) : Option Bool :=
  match primitive.width? with
  | none | some 1 => none
  | some _ => some (order == .little)

/-- An access to a field of a packed value. -/
structure Access where
  /-- The name of the field. -/
  field : String
  /-- The accessor of the view. -/
  method : ViewMethod
  /-- The offset of the first byte. -/
  offset : Nat
  /-- The little-endian argument, if it is given. -/
  littleEndian : Option Bool
  deriving DecidableEq, Repr

/-- The two functions that pack and unpack values of a type. -/
structure Codec where
  /-- The name of the type. -/
  typeName : String
  /-- The number of bytes of a packed value. -/
  size : Nat
  /-- The accesses in field order. -/
  accesses : List Access
  deriving DecidableEq, Repr

/-- The type of a member of an interface. -/
inductive MemberType where
  /-- A type by its spelling. -/
  | host (type : HostType)
  /-- One string only. -/
  | literal (value : String)
  /-- An object with the given members. -/
  | payload (members : List (String × HostType))
  deriving DecidableEq, Repr

/-- An interface. -/
structure Interface where
  /-- The name of the interface. -/
  name : String
  /-- Documentation. -/
  docs : Option String
  /-- The members in order. -/
  members : List (String × MemberType)
  deriving DecidableEq, Repr

/-- A type declaration of an emitted module. -/
inductive Declaration where
  /-- Precomputed text with its documentation. -/
  | verbatim (docs : Option String) (text : String)
  | interface (interface : Interface)
  /-- A name for one of several types. -/
  | oneOf (name : String) (docs : Option String) (alternatives : List String)
  /-- The helper functions of a packed type. -/
  | codec (codec : Codec)
  deriving DecidableEq, Repr

end Glue
end ForeignBindings
