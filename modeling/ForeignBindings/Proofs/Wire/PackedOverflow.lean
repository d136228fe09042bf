import ForeignBindings.Proofs.Decimal.Overflow
import ForeignBindings.Proofs.Wire.PackedBytes

/-!
# Packed numbers that overflow

Packing narrows a number to four bytes without asking whether it fits.  A number halfway between the
greatest one of four bytes and the next power of two, or beyond, is packed as an infinity, which
unpacking refuses; everything else that is packed can be unpacked.
-/

namespace ForeignBindings

namespace BinaryFormat

theorem overflowThreshold_single : single.overflowThreshold = 2 ^ 128 - 2 ^ 103 := by
  have hidden : single.hiddenUnit = 2 ^ 23 := by decide
  have least : single.leastExponent + (single.specialExponent - 2 : Nat) = (104 : Nat) := by decide
  rw [overflowThreshold, hidden, least, zpow_natCast]
  norm_num

theorem lt_overflowThreshold_double : (2 : ℚ) ^ 65 < double.overflowThreshold := by
  have hidden : double.hiddenUnit = 2 ^ 52 := by decide
  have least : double.leastExponent + (double.specialExponent - 2 : Nat) = (971 : Nat) := by decide
  have power : (2 : ℚ) ^ 65 ≤ 2 ^ 971 := pow_le_pow_right₀ one_le_two (by decide)
  have above_one : (1 : ℚ) < 2 * (2 ^ 52 : Nat) - 1 / 2 := by norm_num
  rw [overflowThreshold, hidden, least, zpow_natCast]
  exact power.trans_lt (lt_mul_of_one_lt_left (by positivity) above_one)

/-- Whether a pattern is a number does not depend on what lies above its sign bit. -/
theorem isFinite_mod (format : BinaryFormat) (bits : Nat) :
    format.isFinite (bits % (2 * format.signUnit)) ↔ format.isFinite bits := by
  rw [isFinite_iff_lt_infinity, isFinite_iff_lt_infinity, Nat.mod_mul_left_mod]

end BinaryFormat

namespace Json

open BinaryFormat (double single)

/-- Whether a value is a floating-point number that is rounded to infinity in four bytes. -/
def ExceedsSingle (value : Json) : Prop :=
  ∃ bits finite, value = .number (.float bits finite) ∧
    (2 ^ 128 - 2 ^ 103 : ℚ) ≤ double.magnitude bits

/-- An integer of 64 bits is rounded to a number of eight bytes that is at most twice as great. -/
theorem doubleBits_integer {value : Int} (lower : leastInteger ≤ value)
    (upper : value < unsignedLimit) :
    double.isFinite (Number.integer value lower upper).doubleBits ∧
      double.magnitude (Number.integer value lower upper).doubleBits ≤ 2 ^ 65 := by
  have natural : value.natAbs ≤ 2 ^ 64 := by
    rw [leastInteger] at lower
    rw [unsignedLimit] at upper
    omega
  have small : (value.natAbs / (1 : Nat) : ℚ) ≤ 2 ^ 64 := by
    rw [Nat.cast_one, div_one]
    exact_mod_cast natural
  have below := BinaryFormat.lt_overflowThreshold_double
  have finite : double.isFinite (Number.integer value lower upper).doubleBits :=
    (BinaryFormat.isFinite_round_iff (by decide) Nat.one_pos).mpr (by linarith)
  have bound := BinaryFormat.magnitude_round_le Nat.one_pos finite
  exact ⟨finite, bound.trans (by linarith)⟩

theorem Number.isFinite_doubleBits (number : Number) : double.isFinite number.doubleBits := by
  cases number with
  | integer value lower upper => exact (doubleBits_integer lower upper).1
  | float bits finite => exact finite

theorem number?_eq_some_iff {value : Json} {number : Number} :
    value.number? = some number ↔ value = .number number := by
  cases value <;> simp [number?]

/-- A number is rounded to infinity in four bytes exactly if it exceeds them. -/
theorem not_isFinite_convert_iff {number : Number} :
    ¬ single.isFinite (double.convert single number.doubleBits) ↔
      (Json.number number).ExceedsSingle := by
  rw [BinaryFormat.isFinite_convert_iff (by decide), BinaryFormat.overflowThreshold_single, not_lt]
  cases number with
  | integer value lower upper =>
      have bound := (doubleBits_integer lower upper).2
      have room : (2 : ℚ) ^ 65 < 2 ^ 128 - 2 ^ 103 := by norm_num
      refine iff_of_false (not_le.mpr (bound.trans_lt room)) ?_
      rintro ⟨bits, finite, same, -⟩
      cases same
  | float bits finite =>
      constructor
      · exact fun exceeds => ⟨bits, finite, rfl, exceeds⟩
      · rintro ⟨_, _, same, exceeds⟩
        cases same
        exact exceeds

end Json

namespace Fixed

open Checks

variable {order : ByteOrder} {layout : Layout} {members : List (String × Json)}
  {buffer bytes : List UInt8} {slots : List FieldSlot}

/-- Whether the member for a slot of four bytes is rounded to infinity there. -/
def Overflows (members : List (String × Json)) (slot : FieldSlot) : Prop :=
  slot.primitive = .f32 ∧
    ∃ value, Json.member? members slot.name = some value ∧ value.ExceedsSingle

/-- The pattern of a floating-point number is an infinity exactly if four bytes are exceeded. -/
theorem not_isFinite_pattern?_iff {primitive : Primitive} {format : BinaryFormat} {value : Json}
    {pattern : Nat} (float : primitive.floatFormat? = some format)
    (patterned : pattern? primitive value = some pattern) :
    ¬ format.isFinite pattern ↔ primitive = .f32 ∧ value.ExceedsSingle := by
  cases primitive <;> cases float
  case f32 =>
    obtain ⟨number, isNumber, rfl⟩ := Option.map_eq_some_iff.mp patterned
    obtain rfl := Json.number?_eq_some_iff.mp isNumber
    rw [Json.not_isFinite_convert_iff]
    simp
  case f64 =>
    obtain ⟨number, isNumber, rfl⟩ := Option.map_eq_some_iff.mp patterned
    simp [number.isFinite_doubleBits]

/-- A slot that was packed holds an infinity exactly if its member overflows. -/
theorem Fills.holdsNonFinite_iff_overflows {slot : FieldSlot}
    (fills : Fills order members slots buffer bytes) (inside : slot ∈ slots)
    (scalar : slot.primitive.width? = some slot.width) :
    holdsNonFinite order bytes slot ↔ Overflows members slot := by
  obtain ⟨pattern, found, written⟩ := fills.written slot inside
  obtain ⟨value, held, patterned⟩ := Option.bind_eq_some_iff.mp found
  have overflows : Overflows members slot ↔ slot.primitive = .f32 ∧ value.ExceedsSingle := by
    rw [Overflows, held]
    simp
  rw [holdsNonFinite_iff, overflows, patternAt, written, ByteOrder.number_bytes]
  rcases Primitive.integer_or_float scalar with ⟨type, integer⟩ | ⟨format, float⟩
  · rw [Primitive.floatFormat?_eq_none integer]
    refine iff_of_false (by simp) fun overflows => ?_
    rw [overflows.1] at integer
    cases integer
  · rw [patternCount_eq_of_floatFormat? scalar float, float]
    simp only [Option.some.injEq, exists_eq_left', BinaryFormat.isFinite_mod]
    exact not_isFinite_pattern?_iff float patterned

/-- What is packed can be unpacked again exactly if no number was rounded to infinity in four bytes,
and otherwise the first field with such a number is refused. -/
theorem unpack_pack_iff_not_overflows {typeName : String} {fields : Fields}
    (placed : Layout.ofFields typeName fields = .ok layout)
    (packed : pack layout order (.object members) = .ok bytes) :
    ((∃ value, unpack layout order bytes = .ok value) ↔
        ∀ slot ∈ layout.slots, ¬ Overflows members slot) ∧
      ∀ fault, unpack layout order bytes = .error fault ↔
        ∃ before slot after, layout.slots = before ++ slot :: after ∧
          (∀ earlier ∈ before, ¬ Overflows members earlier) ∧ Overflows members slot ∧
            fault = .nonFinite ("$." ++ slot.name) := by
  have isPlaced := Layout.isPlaced_of_ofFields placed
  have fills := fills_of_pack isPlaced packed
  have holds : ∀ slot ∈ layout.slots, holdsNonFinite order bytes slot ↔ Overflows members slot :=
    fun slot inside => fills.holdsNonFinite_iff_overflows inside (isPlaced.scalar slot inside)
  have reports : Reports _ (unpack layout order bytes) :=
    reports_unpack isPlaced fills.length_eq.ge
  refine ⟨reports.exists_ok_iff.trans ?_, fun fault => reports.eq_error_iff.trans ?_⟩
  · rw [List.flatMap_eq_nil_iff]
    refine forall₂_congr fun slot inside => ?_
    rw [← holds slot inside]
    simp
  · rw [head?_flatMap_ite, Option.map_eq_some_iff]
    simp only [List.find?_eq_some_iff_append]
    constructor
    · rintro ⟨slot, ⟨nonFinite, before, after, split, finite⟩, rfl⟩
      rw [split, List.forall_mem_append, List.forall_mem_cons] at holds
      obtain ⟨before_holds, slot_holds, -⟩ := holds
      refine ⟨before, slot, after, split, fun earlier inside => ?_, slot_holds.mp nonFinite, rfl⟩
      rw [← before_holds earlier inside]
      simpa using finite earlier inside
    · rintro ⟨before, slot, after, split, fits, overflows, rfl⟩
      rw [split, List.forall_mem_append, List.forall_mem_cons] at holds
      obtain ⟨before_holds, slot_holds, -⟩ := holds
      refine ⟨slot, ⟨slot_holds.mpr overflows, before, after, split, fun earlier inside => ?_⟩, rfl⟩
      simpa using mt (before_holds earlier inside).mp (fits earlier inside)

/-- Members for a byte and a number of four bytes, the number given by a pattern of eight bytes. -/
def narrowedMembers (bits : Nat) (finite : BinaryFormat.double.isFinite bits = true) :
    List (String × Json) :=
  [("tag", .number (.integer 17 (by decide) (by decide))), ("value", .number (.float bits finite))]

/-- The last number of eight bytes below the threshold is packed as the greatest one of four bytes,
and the threshold itself as an infinity. -/
theorem unpack_pack_iff_not_overflows_narrowed :
    Layout.ofFields "Sample" sampleFields = .ok sampleLayout ∧
      pack sampleLayout .little (.object (narrowedMembers 0x47EFFFFFEFFFFFFF (by decide))) =
        .ok [17, 0, 0, 0, 255, 255, 127, 127] ∧
      (∃ value, unpack sampleLayout .little [17, 0, 0, 0, 255, 255, 127, 127] = .ok value) ∧
      pack sampleLayout .little (.object (narrowedMembers 0x47EFFFFFF0000000 (by decide))) =
        .ok [17, 0, 0, 0, 0, 0, 128, 127] ∧
      unpack sampleLayout .little [17, 0, 0, 0, 0, 0, 128, 127] =
        .error (.nonFinite "$.value") := by
  have placed : Layout.ofFields "Sample" sampleFields = .ok sampleLayout := by decide
  have below : pack sampleLayout .little
      (.object (narrowedMembers 0x47EFFFFFEFFFFFFF (by decide))) =
        .ok [17, 0, 0, 0, 255, 255, 127, 127] := rfl
  have edge : pack sampleLayout .little
      (.object (narrowedMembers 0x47EFFFFFF0000000 (by decide))) =
        .ok [17, 0, 0, 0, 0, 0, 128, 127] := rfl
  have magnitude_eq {bits mantissa : Nat} (isMantissa : BinaryFormat.double.mantissa bits = mantissa)
      (field : BinaryFormat.double.exponentField bits = 1150) :
      BinaryFormat.double.magnitude bits = mantissa * 2 ^ 75 := by
    have scale : BinaryFormat.double.leastExponent + (1150 - 1 : Nat) = (75 : Nat) := by decide
    rw [BinaryFormat.magnitude, isMantissa, field, BinaryFormat.scaledValue, scale, zpow_natCast]
  have below_lt : BinaryFormat.double.magnitude 0x47EFFFFFEFFFFFFF < 2 ^ 128 - 2 ^ 103 := by
    have mantissa : BinaryFormat.double.mantissa 0x47EFFFFFEFFFFFFF = 2 ^ 53 - 2 ^ 28 - 1 := by
      decide
    rw [magnitude_eq mantissa (by decide)]
    norm_num
  have edge_eq : BinaryFormat.double.magnitude 0x47EFFFFFF0000000 = 2 ^ 128 - 2 ^ 103 := by
    have mantissa : BinaryFormat.double.mantissa 0x47EFFFFFF0000000 = 2 ^ 53 - 2 ^ 28 := by decide
    rw [magnitude_eq mantissa (by decide)]
    norm_num
  have tag_fits (members : List (String × Json)) : ¬ Overflows members ⟨"tag", .u8, 0⟩ := by
    rintro ⟨isFloat, -⟩
    cases isFloat
  refine ⟨placed, below, (unpack_pack_iff_not_overflows placed below).1.mpr ?_, edge,
    ((unpack_pack_iff_not_overflows placed edge).2 _).mpr
      ⟨[⟨"tag", .u8, 0⟩], ⟨"value", .f32, 4⟩, [], rfl, ?_, ⟨rfl, _, rfl, _, _, rfl, ?_⟩, rfl⟩⟩
  · refine List.forall_mem_cons.mpr ⟨tag_fits _, List.forall_mem_singleton.mpr ?_⟩
    rintro ⟨-, value, held, bits, finite, rfl, exceeds⟩
    cases held
    exact absurd below_lt (not_lt.mpr exceeds)
  · exact List.forall_mem_singleton.mpr (tag_fits _)
  · exact edge_eq.ge

/-- A single number of four bytes. -/
def singleFields : Fields :=
  .ofList [("x", .primitive .f32)]

/-- The layout of that field. -/
def singleLayout : Layout :=
  ⟨[⟨"x", .f32, 0⟩], 4, 4⟩

/-- A number that four bytes cannot hold is packed, and the packed bytes are refused. -/
theorem packed_not_unpacked_single :
    Layout.ofFields "T" singleFields = .ok singleLayout ∧
      pack singleLayout .little
          (.object [("x", .number (.float 0x7E37E43C8800759C (by decide)))]) =
        .ok [0, 0, 128, 127] ∧
      unpack singleLayout .little [0, 0, 128, 127] = .error (.nonFinite "$.x") := by
  have packed : pack singleLayout .little
      (.object [("x", .number (.float 0x7E37E43C8800759C (by decide)))]) =
        .ok [0, 0, 128, 127] := by decide +kernel
  exact ⟨by decide, packed, rfl⟩

end Fixed
end ForeignBindings
