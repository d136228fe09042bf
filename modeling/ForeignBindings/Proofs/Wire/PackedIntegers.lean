import ForeignBindings.Proofs.Layout
import ForeignBindings.Proofs.Wire.Buffers
import Mathlib.Algebra.Ring.Int.Defs
import Mathlib.Algebra.Ring.Nat

/-!
# Packed integers

A value that fits an integer type is packed as the pattern that it has modulo the number of all
patterns, and every pattern stands for an integer, so an object of integers is read from any bytes
that are long enough.
-/

namespace ForeignBindings

/-- The integers of a fixed number of bytes. -/
structure IntegerType where
  /-- The number of bytes. -/
  width : Nat
  /-- Whether there are negative integers. -/
  signed : Bool
  deriving DecidableEq, Repr

/-- The integers of a primitive type. -/
def Primitive.integerType? : Primitive → Option IntegerType
  | .i8 => some ⟨1, true⟩
  | .u8 => some ⟨1, false⟩
  | .i16 => some ⟨2, true⟩
  | .u16 => some ⟨2, false⟩
  | .i32 => some ⟨4, true⟩
  | .u32 => some ⟨4, false⟩
  | .i64 | .isize => some ⟨8, true⟩
  | .u64 | .usize => some ⟨8, false⟩
  | .f32 | .f64 | .void | .str | .buffer | .bufferMut | .ptr => none

/-- Whether a type is one of integers of a fixed number of bytes. -/
def TypeRef.IsInteger (type : TypeRef) : Prop :=
  ∃ primitive integers, type = .primitive primitive ∧ primitive.integerType? = some integers

theorem TypeRef.IsInteger.exists_integerType? {primitive : Primitive}
    (integer : (TypeRef.primitive primitive).IsInteger) :
    ∃ type, primitive.integerType? = some type := by
  obtain ⟨_, type, same, known⟩ := integer
  cases same
  exact ⟨type, known⟩

/-- The integer that a value is, if it is one. -/
def Json.integer? : Json → Option Int
  | .number (.integer value _ _) => some value
  | _ => none

/-- The integer that a member of an object is, if there is such a member and it is one. -/
def Json.integerMember? (value : Json) (name : String) : Option Int :=
  (value.members?.bind fun members => member? members name).bind integer?

namespace IntegerType

/-- The number of bit patterns. -/
def patterns (type : IntegerType) : Nat :=
  2 ^ (8 * type.width)

/-- The integer that a bit pattern stands for. -/
def ofPattern (type : IntegerType) (pattern : Nat) : Int :=
  if type.signed then (pattern : Int).bmod type.patterns else pattern

theorem patterns_eq (type : IntegerType) : type.patterns = ByteOrder.patternCount type.width := by
  rw [patterns, ByteOrder.patternCount, Nat.pow_mul]
  rfl

variable {primitive : Primitive} {type : IntegerType}

theorem width?_eq (integer : primitive.integerType? = some type) :
    primitive.width? = some type.width := by
  cases primitive <;> cases integer <;> rfl

theorem width_le (integer : primitive.integerType? = some type) : type.width ≤ 8 := by
  cases primitive <;> cases integer <;> decide

end IntegerType

theorem ByteOrder.ofLowBytes_lt (bytes : List UInt8) :
    ofLowBytes bytes < patternCount bytes.length := by
  induction bytes with
  | nil => exact Nat.one_pos
  | cons byte bytes induction =>
      have small := byte.toNat_lt
      rw [ofLowBytes, List.length_cons, patternCount_succ]
      omega

/-- Bytes hold one of the patterns of their count. -/
theorem ByteOrder.number_lt (order : ByteOrder) (bytes : List UInt8) :
    order.number bytes < patternCount bytes.length := by
  cases order with
  | little => exact ofLowBytes_lt bytes
  | big => simpa [ByteOrder.number] using ofLowBytes_lt bytes.reverse

/-- The bytes of an integer type hold one of its patterns. -/
theorem IntegerType.number_lt {type : IntegerType} {bytes : List UInt8}
    (length : bytes.length = type.width) (order : ByteOrder) :
    order.number bytes < type.patterns := by
  rw [patterns_eq, ← length]
  exact order.number_lt bytes

namespace Json

theorem integer?_of_asSigned? {value : Json} {integer : Int}
    (known : value.asSigned? = some integer) : value.integer? = some integer := by
  obtain ⟨number, isNumber, fits⟩ := Option.bind_eq_some_iff.mp known
  cases value with
  | number held =>
      cases isNumber
      cases number with
      | integer held _ _ =>
          simp only [Number.asSigned?, Option.ite_none_right_eq_some] at fits
          exact fits.2
      | float => cases fits
  | _ => cases isNumber

theorem integer?_of_asUnsigned? {value : Json} {natural : Nat}
    (known : value.asUnsigned? = some natural) : value.integer? = some (natural : Int) := by
  obtain ⟨number, isNumber, fits⟩ := Option.bind_eq_some_iff.mp known
  cases value with
  | number held =>
      cases isNumber
      cases number with
      | integer held _ _ =>
          simp only [Number.asUnsigned?, Option.ite_none_right_eq_some, Option.some.injEq] at fits
          rw [integer?, ← fits.2, Int.toNat_of_nonneg fits.1]
      | float => cases fits
  | _ => cases isNumber

end Json

namespace Fixed

variable {primitive : Primitive} {type : IntegerType}

theorem pattern?_eq (integer : primitive.integerType? = some type) (value : Json) :
    pattern? primitive value =
      if type.signed then value.asSigned?.bind (signedPattern? type.width)
      else value.asUnsigned?.bind (unsignedPattern? type.width) := by
  cases primitive <;> cases integer <;> rfl

theorem number?_eq (integer : primitive.integerType? = some type) (pattern : Nat) :
    number? primitive pattern = Json.Number.ofInt? (type.ofPattern pattern) := by
  rw [IntegerType.ofPattern, IntegerType.patterns_eq]
  cases primitive <;> cases integer <;> simp [number?, signedNumber?]

/-- A value that is packed as an integer is one, and its pattern is its remainder. -/
theorem integer?_of_pattern? (integer : primitive.integerType? = some type) {value : Json}
    {pattern : Nat} (packed : pattern? primitive value = some pattern) :
    ∃ number, value.integer? = some number ∧ pattern = (number % (type.patterns : Int)).toNat := by
  rw [pattern?_eq integer] at packed
  have count := type.patterns_eq
  split at packed
  case isTrue =>
    obtain ⟨number, signed, packed⟩ := Option.bind_eq_some_iff.mp packed
    simp only [signedPattern?, Option.ite_none_right_eq_some, Option.some.injEq] at packed
    exact ⟨number, Json.integer?_of_asSigned? signed, by rw [count, packed.2]⟩
  case isFalse =>
    obtain ⟨number, unsigned, packed⟩ := Option.bind_eq_some_iff.mp packed
    simp only [unsignedPattern?, Option.ite_none_right_eq_some, Option.some.injEq] at packed
    obtain ⟨small, rfl⟩ := packed
    refine ⟨number, Json.integer?_of_asUnsigned? unsigned, ?_⟩
    rw [count, ← Int.natCast_emod, Nat.mod_eq_of_lt small, Int.toNat_natCast]

/-- Every pattern of an integer type stands for an integer. -/
theorem exists_number? (integer : primitive.integerType? = some type) {pattern : Nat}
    (small : pattern < type.patterns) :
    ∃ number, number? primitive pattern = some number ∧
      (Json.number number).integer? = some (type.ofPattern pattern) := by
  have most : type.patterns ≤ 2 ^ (8 * 8) :=
    Nat.pow_le_pow_right (by decide) (Nat.mul_le_mul_left 8 (IntegerType.width_le integer))
  have positive : 0 < type.patterns := Nat.two_pow_pos _
  have lowest := Int.le_bmod (x := pattern) positive
  have highest := Int.bmod_lt (x := pattern) positive
  obtain ⟨lower, upper⟩ : Json.leastInteger ≤ type.ofPattern pattern ∧
      type.ofPattern pattern < Json.unsignedLimit := by
    rw [IntegerType.ofPattern, Json.leastInteger, Json.unsignedLimit]
    split <;> omega
  exact ⟨.integer _ lower upper,
    by rw [number?_eq integer, Json.Number.ofInt?, dif_pos lower, dif_pos upper], rfl⟩

/-- A slot of an integer type is read from any bytes that hold it. -/
theorem exists_unpackSlot (order : ByteOrder) {slot : FieldSlot}
    (integer : slot.primitive.integerType? = some type) {bytes : List UInt8}
    (fits : slot.offset + type.width ≤ bytes.length) :
    ∃ number, unpackSlot order bytes slot = .ok (slot.name, .number number) ∧
      (Json.number number).integer? =
        some (type.ofPattern (order.number (slice bytes slot.offset type.width))) := by
  obtain ⟨number, known, value⟩ :=
    exists_number? integer (IntegerType.number_lt (length_slice fits) order)
  rw [← FieldSlot.width?_eq (IntegerType.width?_eq integer)] at known
  exact ⟨number, by rw [unpackSlot, known], value⟩

end Fixed
end ForeignBindings
