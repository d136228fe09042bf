import ForeignBindings.Primitive

/-!
# Host types and native kinds

How values look to the host program, and how they cross a native call.  Each primitive type has one
host type and one native kind; scalars cross by value under their own token, everything else as a
buffer with its length and comes back as a pointer.
-/

namespace ForeignBindings

/-- A type of the host language as the emitted module writes it. -/
inductive HostType where
  | number
  | bigint
  | void
  | text
  | bytes
  | null
  /-- An array of numbers. -/
  | numbers
  /-- A declared type by its name. -/
  | declared (name : String)
  /-- A promise of a value of another type. -/
  | promise (inner : HostType)
  deriving DecidableEq, Repr, Inhabited

namespace HostType

/-- The spelling of a host type. -/
def spelling : HostType → String
  | .number => "number"
  | .bigint => "bigint"
  | .void => "void"
  | .text => "string"
  | .bytes => "Uint8Array"
  | .null => "null"
  | .numbers => "number[]"
  | .declared name => name
  | .promise inner => "Promise<" ++ inner.spelling ++ ">"

/-- The host type of a primitive type. -/
def ofPrimitive : Primitive → HostType
  | .i8 | .u8 | .i16 | .u16 | .i32 | .u32 | .f32 | .f64 => .number
  | .i64 | .u64 | .usize | .isize => .bigint
  | .void => .void
  | .str => .text
  | .buffer | .bufferMut | .ptr => .bytes

end HostType

/-- How a value crosses a native call. -/
inductive NativeKind where
  /-- By value. -/
  | scalar (primitive : Primitive)
  /-- As a pointer with a length. -/
  | buffer
  deriving DecidableEq, Repr, Inhabited

namespace NativeKind

/-- The tokens of the native parameters that a value takes in the symbol table. -/
def paramTokens : NativeKind → List String
  | .scalar primitive => [primitive.token]
  | .buffer => ["buffer", "usize"]

/-- The token of a native result. -/
def resultToken : NativeKind → String
  | .scalar primitive => primitive.token
  | .buffer => "pointer"

/-- The native kind of a primitive type. -/
def ofPrimitive : Primitive → NativeKind
  | .i8 => .scalar .i8
  | .u8 => .scalar .u8
  | .i16 => .scalar .i16
  | .u16 => .scalar .u16
  | .i32 => .scalar .i32
  | .u32 => .scalar .u32
  | .i64 => .scalar .i64
  | .u64 => .scalar .u64
  | .usize => .scalar .usize
  | .isize => .scalar .isize
  | .f32 => .scalar .f32
  | .f64 => .scalar .f64
  | .void => .scalar .void
  | .str | .buffer | .bufferMut | .ptr => .buffer

end NativeKind
end ForeignBindings
