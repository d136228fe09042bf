import ForeignBindings.Text.Utf8
import Mathlib.Algebra.Group.Nat.Defs
import Mathlib.Data.List.Lex

/-!
# Order of encoded texts

Texts stand in the order of their bytes.  A character is encoded as a lead byte and continuation
bytes, which hold the digits of its code point to base 64.  Of two characters with as many bytes the
digits decide, and otherwise the lead byte of the longer encoding is greater.
-/

namespace ForeignBindings
namespace Text

/-- A lead byte that holds the highest digits of a number to base 64 above a mark, and a
continuation byte for each of the last digits. -/
def leadAndDigits (mark : Nat) : Nat → Nat → List UInt8
  | 0, number => [UInt8.ofNat (number + mark)]
  | count + 1, number =>
      leadAndDigits mark count (number / 64) ++ [UInt8.ofNat (number % 64 + 128)]

theorem ofNat_cons_lt {number other : Nat} (before : number < other) (fits : other < 256)
    (rest more : List UInt8) : UInt8.ofNat number :: rest < UInt8.ofNat other :: more := by
  refine List.cons_lt_cons_iff.mpr (.inl ?_)
  rw [UInt8.lt_iff_toNat_lt, UInt8.toNat_ofNat_of_lt' (before.trans fits),
    UInt8.toNat_ofNat_of_lt' fits]
  exact before

/-- Of two numbers with as many bytes the smaller one comes first, whatever follows. -/
theorem leadAndDigits_append_lt {mark count number other : Nat} (before : number < other)
    (fits : other / 64 ^ count + mark < 256) (rest more : List UInt8) :
    leadAndDigits mark count number ++ rest < leadAndDigits mark count other ++ more := by
  induction count generalizing number other rest more with
  | zero =>
      rw [Nat.pow_zero, Nat.div_one] at fits
      exact ofNat_cons_lt (Nat.add_lt_add_right before mark) fits rest more
  | succ count induction =>
      have higher_fit : other / 64 / 64 ^ count + mark < 256 := by
        rwa [Nat.div_div_eq_div_mul, ← Nat.pow_succ']
      rw [leadAndDigits, leadAndDigits, List.append_assoc, List.append_assoc]
      rcases Nat.lt_or_ge (number / 64) (other / 64) with higher_before | notBefore
      · exact induction higher_before higher_fit _ _
      · have same : number / 64 = other / 64 := by omega
        rw [same]
        exact List.append_left_lt (ofNat_cons_lt (by omega) (by omega) rest more)

theorem exists_leadAndDigits_eq_cons (mark count number : Nat) :
    ∃ digits, leadAndDigits mark count number =
      UInt8.ofNat (number / 64 ^ count + mark) :: digits := by
  induction count generalizing number with
  | zero => exact ⟨[], by rw [Nat.pow_zero, Nat.div_one, leadAndDigits]⟩
  | succ count induction =>
      obtain ⟨digits, lead⟩ := induction (number / 64)
      rw [leadAndDigits, lead, Nat.div_div_eq_div_mul, ← Nat.pow_succ']
      exact ⟨_, rfl⟩

/-- The number of continuation bytes of a code point and the mark of its lead byte. -/
inductive HasForm (point : Nat) : Nat → Nat → Prop where
  | one (high : point ≤ 0x7F) : HasForm point 0 0
  | two (low : 0x7F < point) (high : point ≤ 0x7FF) : HasForm point 1 0xC0
  | three (low : 0x7FF < point) (high : point ≤ 0xFFFF) : HasForm point 2 0xE0
  | four (low : 0xFFFF < point) (high : point < 0x110000) : HasForm point 3 0xF0

theorem exists_hasForm (letter : Char) :
    ∃ count mark, HasForm letter.toNat count mark ∧
      String.utf8EncodeChar letter = leadAndDigits mark count letter.toNat := by
  have known : letter.toNat < 0x110000 := by
    rcases letter.valid with low | ⟨-, high⟩
    · exact Nat.lt_trans low (by decide)
    · exact high
  simp only [String.utf8EncodeChar, Char.toNat_val]
  split
  case isTrue high => exact ⟨0, 0, .one high, rfl⟩
  case isFalse low =>
    split
    case isTrue high =>
      have lead : letter.toNat / 64 % 32 = letter.toNat / 64 := by omega
      rw [lead]
      exact ⟨1, 0xC0, .two (by omega) high, rfl⟩
    case isFalse low =>
      split
      case isTrue high =>
        have lead : letter.toNat / 4096 % 16 = letter.toNat / 64 / 64 := by omega
        rw [lead]
        exact ⟨2, 0xE0, .three (by omega) high, rfl⟩
      case isFalse low =>
        have lead : letter.toNat / 262144 % 8 = letter.toNat / 64 / 64 / 64 := by omega
        have second : letter.toNat / 4096 = letter.toNat / 64 / 64 := by omega
        rw [lead, second]
        exact ⟨3, 0xF0, .four (by omega) known, rfl⟩

/-- Of two characters the smaller one is encoded before the other, whatever follows. -/
theorem utf8EncodeChar_append_lt {letter other : Char} (before : letter < other)
    (rest more : List UInt8) :
    String.utf8EncodeChar letter ++ rest < String.utf8EncodeChar other ++ more := by
  have before : letter.toNat < other.toNat := before
  obtain ⟨count, mark, form, spelled⟩ := exists_hasForm letter
  obtain ⟨other_count, other_mark, other_form, other_spelled⟩ := exists_hasForm other
  have fits : other.toNat / 64 ^ other_count + other_mark < 256 := by
    cases other_form <;> omega
  have alike_or_below : (count = other_count ∧ mark = other_mark) ∨
      letter.toNat / 64 ^ count + mark < other.toNat / 64 ^ other_count + other_mark := by
    cases form <;> cases other_form <;> omega
  rw [spelled, other_spelled]
  rcases alike_or_below with ⟨rfl, rfl⟩ | below
  · exact leadAndDigits_append_lt before fits rest more
  · obtain ⟨digits, lead⟩ := exists_leadAndDigits_eq_cons mark count letter.toNat
    obtain ⟨other_digits, other_lead⟩ :=
      exists_leadAndDigits_eq_cons other_mark other_count other.toNat
    rw [lead, other_lead]
    exact ofNat_cons_lt below fits _ _

theorem flatMap_utf8EncodeChar_lt {letters others : List Char} (before : letters < others) :
    letters.flatMap String.utf8EncodeChar < others.flatMap String.utf8EncodeChar := by
  induction before with
  | @nil letter letters =>
      obtain ⟨lead, digits, spelled⟩ := List.exists_cons_of_ne_nil
        (String.utf8EncodeChar_ne_nil (c := letter))
      rw [List.flatMap_cons, spelled]
      exact List.nil_lt_cons _ _
  | cons _ induction => exact List.append_left_lt induction
  | rel before => exact utf8EncodeChar_append_lt before _ _

theorem utf8_eq_flatMap (text : String) :
    utf8 text = text.toList.flatMap String.utf8EncodeChar := by
  rw [utf8, ← String.utf8Encode_toList, List.utf8Encode]
  simp

theorem utf8_lt_of_lt {text other : String} (before : text < other) :
    utf8 text < utf8 other := by
  rw [utf8_eq_flatMap, utf8_eq_flatMap]
  exact flatMap_utf8EncodeChar_lt before

/-- The order of texts is the order of their bytes. -/
theorem utf8_lt_utf8_iff {text other : String} : utf8 text < utf8 other ↔ text < other := by
  refine ⟨fun before => ?_, utf8_lt_of_lt⟩
  by_contra notBefore
  have behind : other ≤ text := String.not_lt.mp notBefore
  by_cases same : other = text
  · rw [same] at before
    exact List.lt_irrefl _ before
  · exact List.lt_asymm before (utf8_lt_of_lt (Std.lt_of_le_of_ne behind same))

theorem utf8_le_utf8_iff {text other : String} : utf8 text ≤ utf8 other ↔ text ≤ other := by
  rw [← List.not_lt, utf8_lt_utf8_iff, String.not_lt]

end Text
end ForeignBindings
