import ForeignBindings.Proofs.Wire.PackedNumbers
import ForeignBindings.Wire.Structured

/-!
# Ranges of scalar types

A value is of an integer type exactly if it is an integer between the bounds of the type, and of a
floating-point type if it is a number.  Packing finds out by narrowing the value to the width of the
type and back, structured text by comparing it with bounds; both accept the same values.
-/

namespace ForeignBindings

namespace IntegerType

/-- The least integer of a type. -/
def least (type : IntegerType) : Int :=
  if type.signed then -2 ^ (8 * type.width - 1) else 0

/-- The first integer above all integers of a type. -/
def limit (type : IntegerType) : Int :=
  if type.signed then 2 ^ (8 * type.width - 1) else 2 ^ (8 * type.width)

/-- Whether an integer is one of a type. -/
def Contains (type : IntegerType) (number : Int) : Prop :=
  type.least ≤ number ∧ number < type.limit

end IntegerType

namespace Json

variable {value : Json}

theorem bounds_of_integer? {number : Int} (known : value.integer? = some number) :
    leastInteger ≤ number ∧ number < unsignedLimit := by
  obtain ⟨lower, upper, -⟩ := exists_of_integer? known
  exact ⟨lower, upper⟩

/-- A value is a signed integer if it is an integer below the limit of signed ones. -/
theorem asSigned?_eq_some_iff {number : Int} :
    value.asSigned? = some number ↔ value.integer? = some number ∧ number < signedLimit := by
  constructor
  · intro signed
    have known := integer?_of_asSigned? signed
    obtain ⟨lower, upper, rfl⟩ := exists_of_integer? known
    simp only [asSigned?, number?, Option.bind_some, Number.asSigned?,
      Option.ite_none_right_eq_some] at signed
    exact ⟨known, signed.1⟩
  · rintro ⟨known, below⟩
    obtain ⟨lower, upper, rfl⟩ := exists_of_integer? known
    simp [asSigned?, number?, Number.asSigned?, below]

/-- A value is an unsigned integer if it is an integer that is not negative. -/
theorem asUnsigned?_eq_some_iff {number : Nat} :
    value.asUnsigned? = some number ↔ value.integer? = some (number : Int) := by
  refine ⟨integer?_of_asUnsigned?, fun known => ?_⟩
  obtain ⟨lower, upper, rfl⟩ := exists_of_integer? known
  simp [asUnsigned?, number?, Number.asUnsigned?]

end Json

namespace Structured

variable {value : Json} {primitive : Primitive} {type : IntegerType}

theorem isSignedWithin_iff {low high : Int} (fits : high < Json.signedLimit) :
    isSignedWithin low high value = true ↔
      ∃ number, value.integer? = some number ∧ low ≤ number ∧ number ≤ high := by
  simp only [isSignedWithin, Option.any_eq_true, Bool.and_eq_true, decide_eq_true_eq,
    Json.asSigned?_eq_some_iff]
  refine exists_congr fun number => ?_
  constructor
  · rintro ⟨⟨known, -⟩, within⟩
    exact ⟨known, within⟩
  · rintro ⟨known, lower, upper⟩
    exact ⟨⟨known, Int.lt_of_le_of_lt upper fits⟩, lower, upper⟩

theorem isUnsignedUpTo_iff {high : Nat} :
    isUnsignedUpTo high value = true ↔
      ∃ number, value.integer? = some number ∧ 0 ≤ number ∧ number ≤ high := by
  simp only [isUnsignedUpTo, Option.any_eq_true, decide_eq_true_eq, Json.asUnsigned?_eq_some_iff]
  constructor
  · rintro ⟨natural, known, upper⟩
    exact ⟨natural, known, by omega, by omega⟩
  · rintro ⟨number, known, nonneg, upper⟩
    obtain ⟨natural, rfl⟩ := Int.eq_ofNat_of_zero_le nonneg
    exact ⟨natural, known, by omega⟩

/-- A value is of an integer type exactly if it is an integer between the bounds of the type. -/
theorem isOfPrimitive_iff_contains (integer : primitive.integerType? = some type) :
    isOfPrimitive primitive value = true ↔
      ∃ number, value.integer? = some number ∧ type.Contains number := by
  simp only [IntegerType.Contains, IntegerType.least, IntegerType.limit]
  cases primitive with
  | i8 | i16 | i32 =>
      cases integer
      refine (isSignedWithin_iff (by decide)).trans
        (exists_congr fun number => and_congr_right fun _ => ?_)
      simp only [if_true]
      omega
  | u8 | u16 | u32 =>
      cases integer
      refine isUnsignedUpTo_iff.trans (exists_congr fun number => and_congr_right fun _ => ?_)
      simp only [Bool.false_eq_true, if_false]
      omega
  | i64 | isize =>
      cases integer
      rw [isOfPrimitive, Option.isSome_iff_exists]
      refine exists_congr fun number => Json.asSigned?_eq_some_iff.trans
        (and_congr_right fun known => ?_)
      have bounds := Json.bounds_of_integer? known
      simp only [if_true]
      rw [Json.leastInteger] at bounds
      rw [Json.signedLimit]
      omega
  | u64 | usize =>
      cases integer
      rw [isOfPrimitive, Option.isSome_iff_exists]
      simp only [Json.asUnsigned?_eq_some_iff, Bool.false_eq_true, if_false]
      constructor
      · rintro ⟨natural, known⟩
        have bounds := Json.bounds_of_integer? known
        rw [Json.unsignedLimit] at bounds
        exact ⟨natural, known, by omega, by omega⟩
      · rintro ⟨number, known, nonneg, -⟩
        obtain ⟨natural, rfl⟩ := Int.eq_ofNat_of_zero_le nonneg
        exact ⟨natural, known⟩
  | f32 | f64 | void | str | buffer | bufferMut | ptr => cases integer

end Structured

theorem ByteOrder.patternCount_eq (count : Nat) : patternCount count = 2 ^ (8 * count) := by
  rw [Nat.pow_mul]
  rfl

namespace Fixed

variable {value : Json} {primitive : Primitive} {type : IntegerType}

/-- An integer reads back from its two's complement exactly if it is below half of the patterns, on
either side of zero. -/
theorem exists_signedPattern?_iff {width : Nat} (positive : 0 < width) {number : Int} :
    (∃ pattern, signedPattern? width number = some pattern) ↔
      -2 ^ (8 * width - 1) ≤ number ∧ number < 2 ^ (8 * width - 1) := by
  have count : ByteOrder.patternCount width = 2 * 2 ^ (8 * width - 1) := by
    rw [ByteOrder.patternCount_eq, ← Nat.pow_succ', Nat.succ_eq_add_one,
      Nat.sub_add_cancel (by omega)]
  have half_pos : 0 < 2 ^ (8 * width - 1) := Nat.two_pow_pos _
  have half_cast : ((2 ^ (8 * width - 1) : Nat) : Int) = 2 ^ (8 * width - 1) := by simp
  simp only [signedPattern?, Option.ite_none_right_eq_some, Option.some.injEq, exists_and_left,
    exists_eq', and_true]
  rw [count, Int.bmod_eq_iff (by omega), Int.sub_self, ← half_cast]
  have divides : ((2 * 2 ^ (8 * width - 1) : Nat) : Int) ∣ 0 := Int.dvd_zero _
  omega

theorem exists_unsignedPattern?_iff {width number : Nat} :
    (∃ pattern, unsignedPattern? width number = some pattern) ↔ number < 2 ^ (8 * width) := by
  simp only [unsignedPattern?, Option.ite_none_right_eq_some, Option.some.injEq, exists_and_left,
    exists_eq', and_true, ByteOrder.patternCount_eq]

/-- A value has a pattern of an integer type exactly if it is an integer between the bounds of the
type. -/
theorem exists_pattern?_iff_contains (integer : primitive.integerType? = some type) :
    (∃ pattern, pattern? primitive value = some pattern) ↔
      ∃ number, value.integer? = some number ∧ type.Contains number := by
  have positive : 0 < type.width := Primitive.width?_pos (IntegerType.width?_eq integer)
  have width_le := IntegerType.width_le integer
  simp only [pattern?_eq integer, IntegerType.Contains, IntegerType.least, IntegerType.limit]
  cases type.signed with
  | true =>
      have half_le : (2 : Int) ^ (8 * type.width - 1) ≤ Json.signedLimit := by
        have power_le : 2 ^ (8 * type.width - 1) ≤ 2 ^ 63 :=
          Nat.pow_le_pow_right (by decide) (by omega)
        have cast : ((2 ^ (8 * type.width - 1) : Nat) : Int) = 2 ^ (8 * type.width - 1) := by simp
        rw [← cast, Json.signedLimit]
        omega
      simp only [if_true, Option.bind_eq_some_iff]
      rw [exists_comm]
      simp only [exists_and_left, exists_signedPattern?_iff positive, Json.asSigned?_eq_some_iff]
      refine exists_congr fun number => ?_
      constructor
      · rintro ⟨⟨known, -⟩, within⟩
        exact ⟨known, within⟩
      · rintro ⟨known, lower, upper⟩
        exact ⟨⟨known, Int.lt_of_lt_of_le upper half_le⟩, lower, upper⟩
  | false =>
      have count : ((2 ^ (8 * type.width) : Nat) : Int) = 2 ^ (8 * type.width) := by simp
      simp only [Bool.false_eq_true, if_false, Option.bind_eq_some_iff]
      rw [exists_comm]
      simp only [exists_and_left, exists_unsignedPattern?_iff, Json.asUnsigned?_eq_some_iff]
      constructor
      · rintro ⟨natural, known, small⟩
        exact ⟨natural, known, by omega, by omega⟩
      · rintro ⟨number, known, nonneg, small⟩
        obtain ⟨natural, rfl⟩ := Int.eq_ofNat_of_zero_le nonneg
        exact ⟨natural, known, by omega⟩

/-- A value has a pattern of a scalar type exactly if it is of that type in structured text. -/
theorem exists_pattern?_iff {width : Nat} (scalar : primitive.width? = some width) :
    (∃ pattern, pattern? primitive value = some pattern) ↔
      Structured.isOfPrimitive primitive value = true := by
  rcases Primitive.integer_or_float scalar with ⟨type, integer⟩ | ⟨format, float⟩
  · rw [exists_pattern?_iff_contains integer, Structured.isOfPrimitive_iff_contains integer]
  · cases primitive <;> cases float <;>
      simp [pattern?, Structured.isOfPrimitive, Option.isSome_iff_exists]

end Fixed
end ForeignBindings
