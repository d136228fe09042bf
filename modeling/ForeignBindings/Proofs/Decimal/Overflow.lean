import ForeignBindings.Proofs.Decimal.Conversion
import Mathlib.Tactic.Linarith

/-!
# Rounding beyond the greatest number

A format has a greatest number, and what lies halfway between it and the next power of two or above
is rounded to infinity: the tie goes to the power of two, whose coefficient is even.  Everything
below is rounded to a number, which is at most twice as great.
-/

namespace ForeignBindings
namespace BinaryFormat

variable {format : BinaryFormat} {numerator denominator : Nat} {negative : Bool} {bits : Nat}

theorem div_le_divideToEven (numerator denominator : Nat) :
    numerator / denominator ≤ divideToEven numerator denominator := by
  simp only [divideToEven]
  split <;> [skip; split] <;> omega

theorem divideToEven_le_succ (numerator denominator : Nat) :
    divideToEven numerator denominator ≤ numerator / denominator + 1 := by
  simp only [divideToEven]
  split <;> [skip; split] <;> omega

/-- A fraction above an integer is not rounded below it. -/
theorem le_divideToEven (positive : 0 < denominator) {whole : Nat}
    (le : (whole : ℚ) ≤ numerator / denominator) : whole ≤ divideToEven numerator denominator := by
  rw [le_div_iff₀ (by exact_mod_cast positive)] at le
  have whole_le : whole ≤ numerator / denominator :=
    (Nat.le_div_iff_mul_le positive).mpr (by exact_mod_cast le)
  exact whole_le.trans (div_le_divideToEven numerator denominator)

/-- A fraction below an integer is not rounded above it. -/
theorem divideToEven_le (positive : 0 < denominator) {whole : Nat}
    (less : (numerator / denominator : ℚ) < whole) :
    divideToEven numerator denominator ≤ whole := by
  rw [div_lt_iff₀ (by exact_mod_cast positive)] at less
  have quotient_lt : numerator / denominator < whole :=
    (Nat.div_lt_iff_lt_mul positive).mpr (by exact_mod_cast less)
  exact (divideToEven_le_succ numerator denominator).trans quotient_lt

/-- A fraction is rounded to an even number or above exactly if it is at most one half below it. -/
theorem even_le_divideToEven_iff (positive : 0 < denominator) (half : Nat) :
    2 * half ≤ divideToEven numerator denominator ↔
      (2 * half - 1 / 2 : ℚ) ≤ numerator / denominator := by
  have whole : (2 * half - 1 / 2 : ℚ) ≤ numerator / denominator ↔
      4 * (half * denominator) ≤ 2 * numerator + denominator := by
    rw [le_div_iff₀ (by exact_mod_cast positive), ← @Nat.cast_le ℚ]
    push_cast
    constructor <;> intro le <;> linarith
  rw [whole]
  have parts := Nat.div_add_mod numerator denominator
  have small := Nat.mod_lt numerator positive
  rcases Nat.lt_trichotomy (2 * half) (numerator / denominator + 1) with less | next | greater
  · have scaled := Nat.mul_le_mul_left denominator (Nat.le_of_lt_succ less)
    have below := div_le_divideToEven numerator denominator
    refine iff_of_true (by omega) ?_
    have commuted : denominator * (2 * half) = 2 * (half * denominator) := by ring
    omega
  · -- The quotient is odd, so the tie goes up.
    have scaled : 4 * (half * denominator) =
        2 * (denominator * (numerator / denominator)) + 2 * denominator := by
      calc 4 * (half * denominator) = 2 * (2 * half) * denominator := by ring
        _ = 2 * (numerator / denominator + 1) * denominator := by rw [next]
        _ = 2 * (denominator * (numerator / denominator)) + 2 * denominator := by ring
    simp only [divideToEven]
    split <;> [skip; split] <;> omega
  · have scaled := Nat.mul_le_mul_left denominator (Nat.succ_le_of_lt greater)
    have above := divideToEven_le_succ numerator denominator
    refine iff_of_false (by omega) ?_
    have commuted : denominator * (2 * half) = 2 * (half * denominator) := by ring
    rw [Nat.mul_succ, Nat.mul_succ, commuted] at scaled
    omega

/-- Rounding to an integer at most doubles a fraction. -/
theorem divideToEven_le_twice (positive : 0 < denominator) :
    (divideToEven numerator denominator : ℚ) ≤ 2 * (numerator / denominator) := by
  have whole : divideToEven numerator denominator * denominator ≤ 2 * numerator := by
    have parts := Nat.div_add_mod numerator denominator
    have small := Nat.mod_lt numerator positive
    simp only [divideToEven]
    rw [Nat.mul_comm] at parts
    split <;> [skip; split]
    · omega
    · have even : numerator / denominator % 2 ≤ 1 := by omega
      have scaled := Nat.mul_le_mul_right denominator even
      rw [Nat.add_mul]
      omega
    · rw [Nat.add_mul]
      omega
  rw [← mul_div_assoc, le_div_iff₀ (by exact_mod_cast positive)]
  exact_mod_cast whole

/-- A positive fraction is rounded to the integer nearest to its multiple of the unit in its last
place; the multiple takes all digits unless the unit is the least one. -/
theorem exists_roundMagnitude (format : BinaryFormat) (numerator_pos : 0 < numerator)
    (positive : 0 < denominator) :
    ∃ offset scaled unit : Nat, 0 < unit ∧
      (scaled / unit : ℚ) * 2 ^ (format.leastExponent + offset) = numerator / denominator ∧
      (scaled / unit : ℚ) < 2 * format.hiddenUnit ∧
      ((format.hiddenUnit : ℚ) ≤ scaled / unit ∨ offset = 0) ∧
      format.roundMagnitude numerator denominator =
        offset * format.hiddenUnit + divideToEven scaled unit := by
  have two : (2 : ℚ) ≠ 0 := two_ne_zero
  have fraction_pos : (0 : ℚ) < numerator / denominator := by positivity
  have hidden : (format.hiddenUnit : ℚ) = 2 ^ (format.fractionWidth : Int) := by
    rw [hiddenUnit_eq, zpow_natCast, Nat.cast_pow, Nat.cast_ofNat]
  obtain ⟨offset, ulp_eq⟩ : ∃ offset : Nat,
      max (logTwo numerator denominator - format.fractionWidth) format.leastExponent =
        format.leastExponent + offset := by
    refine ⟨(max (logTwo numerator denominator - format.fractionWidth) format.leastExponent -
      format.leastExponent).toNat, ?_⟩
    omega
  have ratio := scaleByTwo_ratio numerator denominator (-(format.leastExponent + offset))
  refine ⟨offset, (scaleByTwo numerator denominator (-(format.leastExponent + offset))).1,
    (scaleByTwo numerator denominator (-(format.leastExponent + offset))).2,
    scaleByTwo_pos numerator positive _, ?_, ?_, ?_, ?_⟩
  · rw [ratio, mul_assoc, ← zpow_add₀ two, neg_add_cancel, zpow_zero, mul_one]
  · have below := Int.lt_zpow_succ_log_self (R := ℚ) (b := 2) (by decide) (numerator / denominator)
    rw [← logTwo_eq_log numerator_pos positive, Nat.cast_ofNat] at below
    rw [ratio, zpow_neg, ← div_eq_mul_inv, div_lt_iff₀ (by positivity), hidden, ← zpow_one_add₀ two,
      ← zpow_add₀ two]
    exact below.trans_le (zpow_le_zpow_right₀ one_le_two (by omega))
  · rw [or_iff_not_imp_right]
    intro raised
    have above := Int.zpow_log_le_self (R := ℚ) (b := 2) (by decide) fraction_pos
    rw [← logTwo_eq_log numerator_pos positive, Nat.cast_ofNat] at above
    rw [ratio, zpow_neg, ← div_eq_mul_inv, le_div_iff₀ (by positivity), hidden, ← zpow_add₀ two]
    refine le_trans (zpow_le_zpow_right₀ one_le_two ?_) above
    omega
  · rw [roundMagnitude, if_neg numerator_pos.ne']
    simp only [ulp_eq, add_sub_cancel_left, Int.toNat_natCast]

/-- The least magnitude that is rounded to infinity: halfway between the greatest number and the
next power of two. -/
def overflowThreshold (format : BinaryFormat) : ℚ :=
  (2 * format.hiddenUnit - 1 / 2) *
    2 ^ (format.leastExponent + (format.specialExponent - 2 : Nat))

theorem two_zpow_succ (exponent : Int) : (2 : ℚ) ^ (exponent + 1) = 2 * 2 ^ exponent := by
  rw [zpow_add_one₀ two_ne_zero, mul_comm]

/-- Numbers of a smaller unit lie below those that take all digits of a greater one. -/
theorem mul_zpow_lt {fraction : ℚ} (below : fraction < 2 * format.hiddenUnit) {offset other : Nat}
    (less : offset < other) :
    fraction * 2 ^ (format.leastExponent + offset) <
      format.hiddenUnit * 2 ^ (format.leastExponent + other) := by
  have raised : 2 * (2 : ℚ) ^ (format.leastExponent + offset) ≤
      2 ^ (format.leastExponent + other) := by
    rw [← two_zpow_succ]
    exact zpow_le_zpow_right₀ one_le_two (by omega)
  calc fraction * 2 ^ (format.leastExponent + offset)
      < 2 * format.hiddenUnit * 2 ^ (format.leastExponent + offset) := by gcongr
    _ = format.hiddenUnit * (2 * 2 ^ (format.leastExponent + offset)) := by ring
    _ ≤ format.hiddenUnit * 2 ^ (format.leastExponent + other) := by gcongr

/-- Numbers that take all digits of a greater unit lie above those of a smaller one. -/
theorem le_mul_zpow {fraction : ℚ} (above : format.hiddenUnit ≤ fraction) {offset other : Nat}
    (less : other < offset) :
    2 * format.hiddenUnit * 2 ^ (format.leastExponent + other) ≤
      fraction * 2 ^ (format.leastExponent + offset) := by
  have raised : 2 * (2 : ℚ) ^ (format.leastExponent + other) ≤
      2 ^ (format.leastExponent + offset) := by
    rw [← two_zpow_succ]
    exact zpow_le_zpow_right₀ one_le_two (by omega)
  have nonneg : 0 ≤ fraction := (Nat.cast_nonneg _).trans above
  calc 2 * format.hiddenUnit * (2 : ℚ) ^ (format.leastExponent + other)
      = format.hiddenUnit * (2 * 2 ^ (format.leastExponent + other)) := by ring
    _ ≤ fraction * 2 ^ (format.leastExponent + offset) := by gcongr

theorem overflowThreshold_pos (format : BinaryFormat) : 0 < format.overflowThreshold := by
  have hidden_ge : (1 : ℚ) ≤ format.hiddenUnit := by exact_mod_cast format.hiddenUnit_pos
  exact mul_pos (by linarith) (by positivity)

/-- A fraction is rounded to infinity exactly if it is not below the threshold. -/
theorem infinity_le_roundMagnitude_iff (normal : 2 ≤ format.specialExponent)
    (positive : 0 < denominator) :
    format.infinity ≤ format.roundMagnitude numerator denominator ↔
      format.overflowThreshold ≤ numerator / denominator := by
  have hidden_ge : (1 : ℚ) ≤ format.hiddenUnit := by exact_mod_cast format.hiddenUnit_pos
  rcases Nat.eq_zero_or_pos numerator with rfl | numerator_pos
  · have infinity_pos : 0 < format.infinity := Nat.mul_pos (by omega) format.hiddenUnit_pos
    rw [roundMagnitude, if_pos rfl, Nat.cast_zero, zero_div]
    exact iff_of_false infinity_pos.not_ge (not_le.mpr format.overflowThreshold_pos)
  obtain ⟨offset, scaled, unit, unit_pos, fraction, below, full, rounded⟩ :=
    exists_roundMagnitude format numerator_pos positive
  obtain ⟨last, special⟩ := Nat.exists_eq_add_of_le' normal
  rw [infinity, overflowThreshold, special, Nat.add_sub_cancel, rounded, ← fraction]
  -- The offset of the greatest number decides: only there the rounding itself can overflow.
  rcases Nat.lt_trichotomy offset last with less | rfl | greater
  · refine iff_of_false ?_ (not_le.mpr ?_)
    · have upper : divideToEven scaled unit ≤ 2 * format.hiddenUnit :=
        divideToEven_le unit_pos (by exact_mod_cast below)
      have room := Nat.mul_le_mul_right format.hiddenUnit (Nat.succ_le_of_lt less)
      have hidden_pos := format.hiddenUnit_pos
      rw [Nat.succ_mul] at room
      rw [Nat.add_mul]
      omega
    · refine (mul_zpow_lt below less).trans_le ?_
      gcongr
      linarith
  · rw [mul_le_mul_iff_left₀ (by positivity), ← even_le_divideToEven_iff unit_pos, Nat.add_mul]
    omega
  · have lower : (format.hiddenUnit : ℚ) ≤ scaled / unit := full.resolve_right (by omega)
    refine iff_of_true ?_ (le_trans ?_ (le_mul_zpow lower greater))
    · have room := Nat.mul_le_mul_right format.hiddenUnit (Nat.succ_le_of_lt greater)
      have whole := le_divideToEven unit_pos lower
      rw [Nat.succ_mul] at room
      rw [Nat.add_mul]
      omega
    · gcongr
      linarith

theorem round_eq_withSign (format : BinaryFormat) (negative : Bool) (numerator denominator : Nat) :
    format.round negative numerator denominator = format.withSign negative
      (min (format.roundMagnitude numerator denominator) format.infinity) := rfl

/-- A fraction is rounded to a number exactly if its magnitude is below that of infinity. -/
theorem isFinite_round_iff_lt :
    format.isFinite (format.round negative numerator denominator) ↔
      format.roundMagnitude numerator denominator < format.infinity := by
  have unsigned : min (format.roundMagnitude numerator denominator) format.infinity <
      format.signUnit := (Nat.min_le_right _ _).trans_lt format.infinity_lt_signUnit
  rw [isFinite_iff_lt_infinity, round_eq_withSign, withSign_mod unsigned]
  omega

/-- A fraction is rounded to a number exactly if it is below the threshold. -/
theorem isFinite_round_iff (normal : 2 ≤ format.specialExponent) (positive : 0 < denominator) :
    format.isFinite (format.round negative numerator denominator) ↔
      (numerator / denominator : ℚ) < format.overflowThreshold := by
  rw [isFinite_round_iff_lt, ← not_le, ← not_le, infinity_le_roundMagnitude_iff normal positive]

/-- A number is converted to a number exactly if its magnitude is below the threshold. -/
theorem isFinite_convert_iff {source target : BinaryFormat} (normal : 2 ≤ target.specialExponent) :
    target.isFinite (source.convert target bits) ↔
      source.magnitude bits < target.overflowThreshold := by
  have ratio := scaleByTwo_ratio (source.mantissa bits) 1 (source.exponent bits)
  rw [Nat.cast_one, div_one] at ratio
  have positive := scaleByTwo_pos (source.mantissa bits) Nat.one_pos (source.exponent bits)
  exact (isFinite_round_iff normal positive).trans (iff_of_eq (congrArg (· < _) ratio))

/-- A fraction is rounded to a coefficient above the least exponent, and at most doubled: a
coefficient that has grown by a digit is the least one of the next offset. -/
theorem exists_isScaled_roundMagnitude (format : BinaryFormat) (numerator : Nat)
    (positive : 0 < denominator) :
    ∃ coefficient offset, format.IsScaled coefficient offset ∧
      format.roundMagnitude numerator denominator = offset * format.hiddenUnit + coefficient ∧
      format.scaledValue coefficient offset ≤ 2 * (numerator / denominator) := by
  have hidden_pos := format.hiddenUnit_pos
  rcases Nat.eq_zero_or_pos numerator with rfl | numerator_pos
  · refine ⟨0, 0, ⟨by omega, .inr rfl⟩, ?_, ?_⟩
    · rw [roundMagnitude, if_pos rfl, Nat.zero_mul]
    · simp [scaledValue]
  obtain ⟨offset, scaled, unit, unit_pos, fraction, below, full, rounded⟩ :=
    exists_roundMagnitude format numerator_pos positive
  have value_le : (divideToEven scaled unit : ℚ) * 2 ^ (format.leastExponent + offset) ≤
      2 * (numerator / denominator) := by
    rw [← fraction, ← mul_assoc]
    exact mul_le_mul_of_nonneg_right (divideToEven_le_twice unit_pos) (by positivity)
  have upper : divideToEven scaled unit ≤ 2 * format.hiddenUnit :=
    divideToEven_le unit_pos (by exact_mod_cast below)
  rcases upper.lt_or_eq with less | carried
  · exact ⟨_, offset, ⟨less, full.imp_left (le_divideToEven unit_pos)⟩, rounded, value_le⟩
  · refine ⟨format.hiddenUnit, offset + 1, ⟨by omega, .inl le_rfl⟩, ?_, ?_⟩
    · rw [rounded, carried]
      ring
    · refine le_of_eq_of_le ?_ value_le
      rw [scaledValue, carried, Nat.cast_add_one, ← add_assoc, two_zpow_succ]
      push_cast
      ring

/-- A number that a fraction is rounded to is at most twice as great. -/
theorem magnitude_round_le (positive : 0 < denominator)
    (finite : format.isFinite (format.round negative numerator denominator)) :
    format.magnitude (format.round negative numerator denominator) ≤
      2 * (numerator / denominator) := by
  have small := isFinite_round_iff_lt.mp finite
  obtain ⟨coefficient, offset, isScaled, rounded, value_le⟩ :=
    exists_isScaled_roundMagnitude format numerator positive
  have unsigned := small.trans format.infinity_lt_signUnit
  rw [rounded] at unsigned
  obtain ⟨mantissa_eq, offset_eq⟩ := fields_of_isScaled isScaled negative unsigned
  rw [magnitude, round_eq_withSign, Nat.min_eq_left small.le, rounded, mantissa_eq, offset_eq]
  exact value_le

end BinaryFormat
end ForeignBindings
