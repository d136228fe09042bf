/-!
# Primitive types

The closed set of primitive types that cross the boundary between a host program and a native
library, each with its token, its width if it is a fixed-width scalar, and whether it crosses as a
buffer.
-/

namespace ForeignBindings

/-- A primitive type of the boundary. -/
inductive Primitive where
  | i8
  | u8
  | i16
  | u16
  | i32
  | u32
  | i64
  | u64
  | usize
  | isize
  | f32
  | f64
  | void
  /-- Text in UTF-8. -/
  | str
  /-- Bytes that the callee only reads. -/
  | buffer
  /-- Bytes that the callee may change in place. -/
  | bufferMut
  /-- Bytes behind an opaque pointer. -/
  | ptr
  deriving DecidableEq, Repr, Inhabited

namespace Primitive

/-- Every primitive type. -/
def all : List Primitive :=
  [i8, u8, i16, u16, i32, u32, i64, u64, usize, isize, f32, f64, void, str, buffer, bufferMut, ptr]

/-- The token that names a primitive type. -/
def token : Primitive → String
  | i8 => "i8"
  | u8 => "u8"
  | i16 => "i16"
  | u16 => "u16"
  | i32 => "i32"
  | u32 => "u32"
  | i64 => "i64"
  | u64 => "u64"
  | usize => "usize"
  | isize => "isize"
  | f32 => "f32"
  | f64 => "f64"
  | void => "void"
  | str => "str"
  | buffer => "buffer"
  | bufferMut => "buffermut"
  | ptr => "ptr"

/-- The primitive type with a given token; upper and lower case differ. -/
def ofToken? (name : String) : Option Primitive :=
  all.find? fun candidate => candidate.token == name

/-- Whether values cross the boundary as a pointer with a length. -/
def isBufferLike : Primitive → Bool
  | str | buffer | bufferMut | ptr => true
  | _ => false

/-- The width in bytes of a fixed-width scalar; pointer-sized integers have eight bytes. -/
def width? : Primitive → Option Nat
  | i8 | u8 => some 1
  | i16 | u16 => some 2
  | i32 | u32 | f32 => some 4
  | i64 | u64 | usize | isize | f64 => some 8
  | void | str | buffer | bufferMut | ptr => none

theorem mem_all (primitive : Primitive) : primitive ∈ all := by
  cases primitive <;> decide

theorem width?_pos {primitive : Primitive} {width : Nat}
    (known : primitive.width? = some width) : 0 < width := by
  cases primitive <;> simp_all [width?] <;> omega

end Primitive
end ForeignBindings
