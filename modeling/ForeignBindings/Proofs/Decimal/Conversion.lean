import ForeignBindings.Decimal.BinaryFormat
import Mathlib.Algebra.Order.Field.Power
import Mathlib.Data.Int.Log
import Mathlib.Data.Rat.Floor
import Mathlib.Tactic.Positivity
import Mathlib.Tactic.Ring

/-!
# Conversion between floating-point formats

A fraction that is the magnitude of a finite pattern is rounded to this pattern.  So a number of a
format is kept when it is converted to a format that holds all its numbers and back, sign and all.
-/

namespace ForeignBindings
namespace BinaryFormat

theorem scaleByTwo_pos (numerator : Nat) {denominator : Nat} (positive : 0 < denominator)
    (exponent : Int) : 0 < (scaleByTwo numerator denominator exponent).2 := by
  rw [scaleByTwo]
  split
  · exact positive
  · rw [Nat.shiftLeft_eq]
    positivity

/-- Scaling multiplies a fraction by a power of two. -/
theorem scaleByTwo_ratio (numerator denominator : Nat) (exponent : Int) :
    ((scaleByTwo numerator denominator exponent).1 : ℚ) /
        (scaleByTwo numerator denominator exponent).2 =
      numerator / denominator * 2 ^ exponent := by
  rw [scaleByTwo]
  split
  case isTrue nonneg =>
    obtain ⟨shift, rfl⟩ := Int.eq_ofNat_of_zero_le nonneg
    rw [Int.toNat_natCast, Nat.shiftLeft_eq, zpow_natCast]
    push_cast
    ring
  case isFalse negative =>
    obtain ⟨shift, rfl⟩ : ∃ shift : Nat, exponent = -shift := ⟨(-exponent).toNat, by omega⟩
    rw [neg_neg, Int.toNat_natCast, Nat.shiftLeft_eq, zpow_neg, zpow_natCast]
    push_cast
    rw [div_mul_eq_div_div, div_eq_mul_inv _ ((2 : ℚ) ^ shift)]

/-- The fraction of two numbers lies within a factor of two of the fraction of their leading powers
of two. -/
theorem log2_bounds {numerator denominator : Nat} (numerator_pos : 0 < numerator)
    (denominator_pos : 0 < denominator) :
    (2 : ℚ) ^ ((numerator.log2 : Int) - denominator.log2 - 1) ≤ numerator / denominator ∧
      (numerator / denominator : ℚ) < 2 ^ ((numerator.log2 : Int) - denominator.log2 + 1) := by
  have two : (2 : ℚ) ≠ 0 := by norm_num
  have positive : (0 : ℚ) < denominator := by exact_mod_cast denominator_pos
  have numerator_le : (2 : ℚ) ^ numerator.log2 ≤ numerator := by
    exact_mod_cast Nat.log2_self_le (by omega)
  have numerator_lt : (numerator : ℚ) < 2 ^ (numerator.log2 + 1) := by
    exact_mod_cast Nat.lt_log2_self
  have denominator_le : (2 : ℚ) ^ denominator.log2 ≤ denominator := by
    exact_mod_cast Nat.log2_self_le (by omega)
  have denominator_lt : (denominator : ℚ) < 2 ^ (denominator.log2 + 1) := by
    exact_mod_cast Nat.lt_log2_self
  constructor
  · rw [sub_sub, ← Nat.cast_succ, zpow_sub₀ two, zpow_natCast, zpow_natCast]
    gcongr
  · rw [sub_add_eq_add_sub, ← Nat.cast_succ, zpow_sub₀ two, zpow_natCast, zpow_natCast]
    gcongr

/-- The binary logarithm of a positive fraction is rounded down. -/
theorem logTwo_eq_log {numerator denominator : Nat} (numerator_pos : 0 < numerator)
    (denominator_pos : 0 < denominator) :
    logTwo numerator denominator = Int.log 2 (numerator / denominator : ℚ) := by
  have two : (1 : ℕ) < 2 := by decide
  have fraction_pos : (0 : ℚ) < numerator / denominator := by positivity
  obtain ⟨lower, upper⟩ := log2_bounds numerator_pos denominator_pos
  rw [logTwo]
  generalize (numerator.log2 : Int) - denominator.log2 = estimate at lower upper
  have unit_pos := scaleByTwo_pos numerator denominator_pos (-estimate)
  have scaled := scaleByTwo_ratio numerator denominator (-estimate)
  have below : (scaleByTwo numerator denominator (-estimate)).1 <
      (scaleByTwo numerator denominator (-estimate)).2 ↔
        (numerator / denominator : ℚ) < 2 ^ estimate := by
    rw [← @Nat.cast_lt ℚ, ← div_lt_one (by exact_mod_cast unit_pos), scaled, zpow_neg,
      ← div_eq_mul_inv, div_lt_one (by positivity)]
  have lower_log := (Int.zpow_le_iff_le_log two fraction_pos).mp lower
  have upper_log := (Int.lt_zpow_iff_log_lt two fraction_pos).mp upper
  generalize scaleByTwo numerator denominator (-estimate) = fraction at below ⊢
  simp only
  split
  case isTrue less =>
    have log_lt := (Int.lt_zpow_iff_log_lt two fraction_pos).mp (below.mp less)
    omega
  case isFalse notLess =>
    have le_log := (Int.zpow_le_iff_le_log two fraction_pos).mp (not_lt.mp (notLess ∘ below.mpr))
    omega

/-- A fraction that is an integer is rounded to it. -/
theorem divideToEven_of_ratio {numerator denominator quotient : Nat} (positive : 0 < denominator)
    (exact : (numerator / denominator : ℚ) = quotient) :
    divideToEven numerator denominator = quotient := by
  obtain rfl : numerator = quotient * denominator := by
    rw [div_eq_iff (by positivity)] at exact
    exact_mod_cast exact
  rw [divideToEven, Nat.mul_mod_left, Nat.mul_div_cancel _ positive]
  simp [positive]

variable {format : BinaryFormat} {coefficient offset : Nat}

theorem hiddenUnit_eq (format : BinaryFormat) : format.hiddenUnit = 2 ^ format.fractionWidth :=
  Nat.one_shiftLeft _

/-- Whether a coefficient above the least exponent by an offset is that of a pattern: it takes all
digits unless the offset is zero. -/
structure IsScaled (format : BinaryFormat) (coefficient offset : Nat) : Prop where
  /-- The coefficient has no more digits than a pattern holds. -/
  lt : coefficient < 2 * format.hiddenUnit
  /-- The coefficient has as many digits as a pattern holds, or the offset is zero. -/
  full : format.hiddenUnit ≤ coefficient ∨ offset = 0

/-- The value of a coefficient above the least exponent by an offset. -/
def scaledValue (format : BinaryFormat) (coefficient offset : Nat) : ℚ :=
  coefficient * 2 ^ (format.leastExponent + offset)

theorem hiddenUnit_pos (format : BinaryFormat) : 0 < format.hiddenUnit := by
  rw [hiddenUnit_eq]
  positivity

/-- The unit in the last place of a fraction that the format has is that of its coefficient. -/
theorem ulp_of_isScaled (isScaled : format.IsScaled coefficient offset)
    (positive : 0 < coefficient) :
    max (Int.log 2 (format.scaledValue coefficient offset) - format.fractionWidth)
      format.leastExponent = format.leastExponent + offset := by
  have two : (1 : ℕ) < 2 := by decide
  have nonzero : (2 : ℚ) ≠ 0 := by norm_num
  have value_pos : 0 < format.scaledValue coefficient offset := by
    unfold scaledValue
    positivity
  have hidden : (format.hiddenUnit : ℚ) = 2 ^ (format.fractionWidth : Int) := by
    rw [hiddenUnit_eq, zpow_natCast, Nat.cast_pow, Nat.cast_ofNat]
  have power (exponent : Int) : (2 : ℚ) ^ (exponent + (format.leastExponent + offset)) =
      2 ^ exponent * 2 ^ (format.leastExponent + offset) := zpow_add₀ nonzero _ _
  have below (exponent : Int) : (coefficient : ℚ) < 2 ^ exponent →
      Int.log 2 (format.scaledValue coefficient offset) <
        exponent + (format.leastExponent + offset) := fun less => by
    refine (Int.lt_zpow_iff_log_lt two value_pos).mp ?_
    rw [scaledValue, Nat.cast_ofNat, power]
    gcongr
  rcases Nat.lt_or_ge coefficient format.hiddenUnit with short | full
  · have lowest : offset = 0 := isScaled.full.resolve_left (Nat.not_le.mpr short)
    have less : (coefficient : ℚ) < 2 ^ (format.fractionWidth : Int) := by
      rw [← hidden]
      exact_mod_cast short
    have log_lt := below _ less
    omega
  · have less : (coefficient : ℚ) < 2 ^ ((format.fractionWidth : Int) + 1) := by
      rw [zpow_add₀ nonzero, ← hidden, zpow_one, mul_comm]
      exact_mod_cast isScaled.lt
    have log_lt := below _ less
    have le_log : (format.fractionWidth : Int) + (format.leastExponent + offset) ≤
        Int.log 2 (format.scaledValue coefficient offset) := by
      refine (Int.zpow_le_iff_le_log two value_pos).mp ?_
      rw [scaledValue, Nat.cast_ofNat, power, ← hidden]
      gcongr
    omega

/-- A fraction is rounded to itself if the format has it. -/
theorem roundMagnitude_of_isScaled (isScaled : format.IsScaled coefficient offset)
    {numerator denominator : Nat} (positive : 0 < denominator)
    (exact : (numerator / denominator : ℚ) = format.scaledValue coefficient offset) :
    format.roundMagnitude numerator denominator = offset * format.hiddenUnit + coefficient := by
  have denominator_ne : (denominator : ℚ) ≠ 0 := by exact_mod_cast positive.ne'
  have power_ne : (2 : ℚ) ^ (format.leastExponent + offset) ≠ 0 := by positivity
  have numerator_eq_zero : numerator = 0 ↔ coefficient = 0 := by
    have zero := congrArg (· = 0) exact
    simpa [scaledValue, denominator_ne, power_ne] using zero
  rw [roundMagnitude]
  split
  case isTrue zero =>
    have zero := numerator_eq_zero.mp zero
    have lowest : offset = 0 := isScaled.full.resolve_left fun full =>
      absurd format.hiddenUnit_pos (by omega)
    rw [zero, lowest, Nat.zero_mul]
  case isFalse nonzero =>
    have coefficient_pos := Nat.pos_of_ne_zero (nonzero ∘ numerator_eq_zero.mpr)
    have ulp := ulp_of_isScaled isScaled coefficient_pos
    rw [← exact, ← logTwo_eq_log (Nat.pos_of_ne_zero nonzero) positive] at ulp
    have unit_pos := scaleByTwo_pos numerator positive (-(format.leastExponent + offset))
    have scaled := scaleByTwo_ratio numerator denominator (-(format.leastExponent + offset))
    rw [exact, scaledValue, zpow_neg, mul_inv_cancel_right₀ power_ne] at scaled
    simp only [ulp, divideToEven_of_ratio unit_pos scaled, add_sub_cancel_left, Int.toNat_natCast]

/-- A pattern below the sign bit with a sign. -/
def withSign (format : BinaryFormat) (negative : Bool) (unsigned : Nat) : Nat :=
  (if negative then format.signUnit else 0) + unsigned

theorem signUnit_eq (format : BinaryFormat) :
    format.signUnit = 2 ^ format.exponentWidth * format.hiddenUnit := by
  rw [signUnit, hiddenUnit_eq, Nat.one_shiftLeft, Nat.pow_add]

theorem specialExponent_lt (format : BinaryFormat) :
    format.specialExponent < 2 ^ format.exponentWidth := by
  rw [specialExponent, Nat.one_shiftLeft]
  exact Nat.sub_one_lt (Nat.two_pow_pos _).ne'

theorem infinity_lt_signUnit (format : BinaryFormat) : format.infinity < format.signUnit := by
  rw [infinity, signUnit_eq]
  exact Nat.mul_lt_mul_of_pos_right format.specialExponent_lt format.hiddenUnit_pos

variable {negative : Bool} {unsigned bits : Nat}

theorem isNegative_withSign (small : unsigned < format.signUnit) :
    format.isNegative (format.withSign negative unsigned) = negative := by
  have positive : 0 < format.signUnit := Nat.zero_lt_of_lt small
  cases negative with
  | false => simp [isNegative, withSign, Nat.div_eq_of_lt small]
  | true => simp [isNegative, withSign, Nat.add_div_left _ positive, Nat.div_eq_of_lt small]

theorem exponentField_withSign (small : unsigned < format.signUnit) :
    format.exponentField (format.withSign negative unsigned) = unsigned / format.hiddenUnit := by
  have field_lt : unsigned / format.hiddenUnit < 2 ^ format.exponentWidth := by
    rw [Nat.div_lt_iff_lt_mul format.hiddenUnit_pos, ← signUnit_eq]
    exact small
  rw [exponentField, withSign, Nat.one_shiftLeft]
  cases negative with
  | false => simp [Nat.mod_eq_of_lt field_lt]
  | true =>
      rw [if_pos rfl, signUnit_eq, Nat.add_comm, Nat.add_mul_div_right _ _ format.hiddenUnit_pos,
        Nat.add_mod_right, Nat.mod_eq_of_lt field_lt]

theorem fractionField_withSign (negative : Bool) (unsigned : Nat) :
    format.fractionField (format.withSign negative unsigned) = unsigned % format.hiddenUnit := by
  rw [fractionField, withSign]
  cases negative with
  | false => simp
  | true => rw [if_pos rfl, signUnit_eq, Nat.mul_add_mod_self_right]

theorem withSign_mod (small : unsigned < format.signUnit) :
    format.withSign negative unsigned % format.signUnit = unsigned := by
  cases negative with
  | false => simp [withSign, Nat.mod_eq_of_lt small]
  | true => simp [withSign, Nat.mod_eq_of_lt small]

/-- A pattern is its part below the sign bit with its sign. -/
theorem withSign_isNegative (bounded : bits < 2 * format.signUnit) :
    format.withSign (format.isNegative bits) (bits % format.signUnit) = bits := by
  have split := Nat.div_add_mod bits format.signUnit
  have sign_lt : bits / format.signUnit < 2 :=
    Nat.div_lt_of_lt_mul (Nat.mul_comm 2 _ ▸ bounded)
  rw [withSign, isNegative]
  rcases Nat.le_one_iff_eq_zero_or_eq_one.mp (Nat.le_of_lt_succ sign_lt) with zero | one
  · rw [zero] at split ⊢
    simpa using split
  · rw [one] at split ⊢
    simpa using split

/-- The coefficient and the offset of a pattern make up its part below the sign bit. -/
theorem mod_signUnit (format : BinaryFormat) (bits : Nat) :
    (format.exponentField bits - 1) * format.hiddenUnit + format.mantissa bits =
      bits % format.signUnit := by
  have fields : bits % format.signUnit =
      format.exponentField bits * format.hiddenUnit + format.fractionField bits := by
    rw [signUnit_eq, Nat.mul_comm, Nat.mod_mul, exponentField, fractionField, Nat.one_shiftLeft,
      Nat.mul_comm, Nat.add_comm]
  rw [fields, mantissa]
  split
  case isTrue zero => rw [zero]
  case isFalse nonzero =>
    obtain ⟨field, equation⟩ := Nat.exists_eq_succ_of_ne_zero nonzero
    rw [equation, Nat.succ_sub_one, Nat.succ_mul, Nat.add_assoc]

theorem isScaled_mantissa (format : BinaryFormat) (bits : Nat) :
    format.IsScaled (format.mantissa bits) (format.exponentField bits - 1) := by
  have fraction_lt : format.fractionField bits < format.hiddenUnit :=
    Nat.mod_lt _ format.hiddenUnit_pos
  rw [mantissa]
  split
  case isTrue zero => exact ⟨by omega, .inr (by rw [zero])⟩
  case isFalse => exact ⟨by omega, .inl (Nat.le_add_right _ _)⟩

/-- The patterns of numbers are those below the pattern of infinity. -/
theorem isFinite_iff_lt_infinity :
    format.isFinite bits ↔ bits % format.signUnit < format.infinity := by
  have field_lt : format.exponentField bits < 2 ^ format.exponentWidth := by
    rw [exponentField, Nat.one_shiftLeft]
    exact Nat.mod_lt _ (Nat.two_pow_pos _)
  have special : format.specialExponent + 1 = 2 ^ format.exponentWidth := by
    rw [specialExponent, Nat.one_shiftLeft]
    exact Nat.sub_add_cancel (Nat.two_pow_pos _)
  have field : bits % format.signUnit / format.hiddenUnit = format.exponentField bits := by
    rw [signUnit_eq, Nat.mul_comm, Nat.mod_mul_right_div_self, exponentField, Nat.one_shiftLeft]
  rw [infinity, ← Nat.div_lt_iff_lt_mul format.hiddenUnit_pos, field, isFinite, bne_iff_ne]
  omega

/-- The fields of the pattern of a coefficient above the least exponent by an offset. -/
theorem fields_of_isScaled (isScaled : format.IsScaled coefficient offset) (negative : Bool)
    (small : offset * format.hiddenUnit + coefficient < format.signUnit) :
    let pattern := format.withSign negative (offset * format.hiddenUnit + coefficient)
    format.mantissa pattern = coefficient ∧ format.exponentField pattern - 1 = offset := by
  intro pattern
  have positive := format.hiddenUnit_pos
  rcases Nat.lt_or_ge coefficient format.hiddenUnit with short | full
  · obtain rfl : offset = 0 := isScaled.full.resolve_left (Nat.not_le.mpr short)
    have field : format.exponentField pattern = 0 := by
      rw [exponentField_withSign small, Nat.zero_mul, Nat.zero_add, Nat.div_eq_of_lt short]
    rw [mantissa, if_pos field, field, fractionField_withSign, Nat.zero_mul, Nat.zero_add,
      Nat.mod_eq_of_lt short]
    exact ⟨rfl, rfl⟩
  · obtain ⟨fraction, rfl⟩ := Nat.exists_eq_add_of_le full
    have short : fraction < format.hiddenUnit := by
      have bound := isScaled.lt
      omega
    have split : offset * format.hiddenUnit + (format.hiddenUnit + fraction) =
        fraction + (offset + 1) * format.hiddenUnit := by ring
    have field : format.exponentField pattern = offset + 1 := by
      rw [exponentField_withSign small, split, Nat.add_mul_div_right _ _ positive,
        Nat.div_eq_of_lt short, Nat.zero_add]
    rw [mantissa, if_neg (by omega), field, fractionField_withSign, split,
      Nat.add_mul_mod_self_right, Nat.mod_eq_of_lt short]
    exact ⟨rfl, rfl⟩

/-- The magnitude of a finite pattern. -/
def magnitude (format : BinaryFormat) (bits : Nat) : ℚ :=
  format.scaledValue (format.mantissa bits) (format.exponentField bits - 1)

/-- A number is converted to the pattern of its sign and its magnitude if there is one. -/
theorem convert_of_isScaled {source target : BinaryFormat}
    (isScaled : target.IsScaled coefficient offset)
    (exact : source.magnitude bits = target.scaledValue coefficient offset)
    (small : offset * target.hiddenUnit + coefficient < target.infinity) :
    source.convert target bits =
      target.withSign (source.isNegative bits) (offset * target.hiddenUnit + coefficient) := by
  have positive := scaleByTwo_pos (source.mantissa bits) Nat.one_pos (source.exponent bits)
  have ratio := scaleByTwo_ratio (source.mantissa bits) 1 (source.exponent bits)
  rw [Nat.cast_one, div_one] at ratio
  rw [convert]
  simp only [round]
  rw [roundMagnitude_of_isScaled isScaled positive (ratio.trans exact), Nat.min_eq_left small.le,
    withSign]

/-- Whether a format has room for every finite number of another one. -/
structure Embeds (source target : BinaryFormat) : Prop where
  /-- There are enough digits. -/
  width : source.fractionWidth ≤ target.fractionWidth
  /-- The smallest magnitudes take all digits. -/
  least : target.leastExponent + target.fractionWidth ≤ source.leastExponent
  /-- The greatest magnitudes stay below infinity. -/
  greatest : source.leastExponent + source.specialExponent ≤
    target.leastExponent + target.specialExponent

theorem embeds_single_double : Embeds single double := by
  constructor <;> decide

/-- A coefficient that takes all digits when its digits are moved up. -/
theorem isScaled_shift {shift : Nat} (positive : 0 < coefficient)
    (digits : coefficient.log2 + shift = format.fractionWidth) (offset : Nat) :
    format.IsScaled (coefficient * 2 ^ shift) offset := by
  have log_le := Nat.log2_self_le positive.ne'
  have lt_log := Nat.lt_log2_self (n := coefficient)
  constructor
  · rw [hiddenUnit_eq, ← digits, Nat.pow_add, ← Nat.mul_assoc, ← Nat.pow_succ']
    exact Nat.mul_lt_mul_of_pos_right lt_log (Nat.two_pow_pos _)
  · rw [hiddenUnit_eq, ← digits, Nat.pow_add]
    exact .inl (Nat.mul_le_mul_right _ log_le)

/-- A number below infinity has a lower offset than the special exponent, unless it has fewer digits
than a pattern holds. -/
theorem offset_lt_of_lt_infinity (isScaled : format.IsScaled coefficient offset)
    (positive : 0 < coefficient)
    (small : offset * format.hiddenUnit + coefficient < format.infinity) :
    coefficient.log2 ≤ format.fractionWidth ∧
      (offset + 1 < format.specialExponent ∨
        offset = 0 ∧ coefficient.log2 < format.fractionWidth) := by
  have log_lt_iff (exponent : Nat) := Nat.log2_lt (k := exponent) positive.ne'
  have bound := isScaled.lt
  rw [hiddenUnit_eq, ← Nat.pow_succ', ← log_lt_iff] at bound
  refine ⟨Nat.le_of_lt_succ bound, ?_⟩
  rcases Nat.lt_or_ge coefficient format.hiddenUnit with short | full
  · have lowest : offset = 0 := isScaled.full.resolve_left (Nat.not_le.mpr short)
    rw [hiddenUnit_eq, ← log_lt_iff] at short
    exact .inr ⟨lowest, short⟩
  · have less : (offset + 1) * format.hiddenUnit < format.infinity := by
      rw [Nat.succ_mul]
      omega
    exact .inl (Nat.lt_of_mul_lt_mul_right less)

/-- A number of a format has a coefficient in every format that has room for it. -/
theorem exists_isScaled {source target : BinaryFormat} (embeds : Embeds source target)
    (isScaled : source.IsScaled coefficient offset)
    (small : offset * source.hiddenUnit + coefficient < source.infinity) :
    ∃ coefficient' offset', target.IsScaled coefficient' offset' ∧
      source.scaledValue coefficient offset = target.scaledValue coefficient' offset' ∧
        offset' * target.hiddenUnit + coefficient' < target.infinity := by
  obtain ⟨width, least, greatest⟩ := embeds
  have special_pos : 0 < source.specialExponent :=
    Nat.pos_of_mul_pos_right (Nat.zero_lt_of_lt small)
  rcases Nat.eq_zero_or_pos coefficient with rfl | positive
  · refine ⟨0, 0, ⟨Nat.mul_pos Nat.two_pos target.hiddenUnit_pos, .inr rfl⟩, ?_, ?_⟩
    · rw [scaledValue, scaledValue, Nat.cast_zero, zero_mul, zero_mul]
    · rw [infinity, Nat.zero_mul]
      exact Nat.mul_pos (by omega) target.hiddenUnit_pos
  · obtain ⟨log_le, room⟩ := offset_lt_of_lt_infinity isScaled positive small
    obtain ⟨shift, digits⟩ := Nat.exists_eq_add_of_le (log_le.trans width)
    obtain ⟨lifted, lifted_eq⟩ :=
      Int.eq_ofNat_of_zero_le (a := source.leastExponent + offset - shift - target.leastExponent)
        (by omega)
    have isLifted := isScaled_shift positive digits.symm lifted
    refine ⟨coefficient * 2 ^ shift, lifted, isLifted, ?_, ?_⟩
    · have exponent_eq : source.leastExponent + offset =
          shift + (target.leastExponent + lifted) := by omega
      rw [scaledValue, scaledValue, exponent_eq, zpow_add₀ two_ne_zero, zpow_natCast]
      push_cast
      ring
    · have lifted_le : lifted + 2 ≤ target.specialExponent := by omega
      calc lifted * target.hiddenUnit + coefficient * 2 ^ shift
          < lifted * target.hiddenUnit + 2 * target.hiddenUnit :=
            Nat.add_lt_add_left isLifted.lt _
        _ = (lifted + 2) * target.hiddenUnit := (Nat.add_mul ..).symm
        _ ≤ target.infinity := Nat.mul_le_mul_right _ lifted_le

/-- A number that is converted to a format with room for it stays a number of the same sign and
magnitude. -/
theorem convert_spec {source target : BinaryFormat} (embeds : Embeds source target)
    (finite : source.isFinite bits) :
    target.isFinite (source.convert target bits) ∧
      target.isNegative (source.convert target bits) = source.isNegative bits ∧
        target.magnitude (source.convert target bits) = source.magnitude bits := by
  have small := isFinite_iff_lt_infinity.mp finite
  rw [← mod_signUnit] at small
  obtain ⟨coefficient, offset, isScaled, same, small⟩ :=
    exists_isScaled embeds (source.isScaled_mantissa bits) small
  have unsigned := small.trans target.infinity_lt_signUnit
  obtain ⟨mantissa_eq, offset_eq⟩ :=
    fields_of_isScaled isScaled (source.isNegative bits) unsigned
  rw [convert_of_isScaled isScaled same small, isFinite_iff_lt_infinity, withSign_mod unsigned,
    isNegative_withSign unsigned, magnitude, mantissa_eq, offset_eq]
  exact ⟨small, rfl, same.symm⟩

/-- A number that is converted to a format with room for it and back is the same pattern. -/
theorem convert_convert {source target : BinaryFormat} (embeds : Embeds source target)
    (finite : source.isFinite bits) (bounded : bits < 2 * source.signUnit) :
    target.convert source (source.convert target bits) = bits := by
  obtain ⟨-, sign_eq, magnitude_eq⟩ := convert_spec embeds finite
  have small := isFinite_iff_lt_infinity.mp finite
  rw [← mod_signUnit] at small
  rw [convert_of_isScaled (source.isScaled_mantissa bits) magnitude_eq small, sign_eq,
    mod_signUnit, withSign_isNegative bounded]

end BinaryFormat
end ForeignBindings
