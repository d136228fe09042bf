import ForeignBindings.Proofs.Decimal.Conversion
import ForeignBindings.Proofs.Wire.PackedIntegers

/-!
# Packed numbers

Every bit pattern of a scalar type stands for a number, except for the infinities and NaNs of a
floating-point type, and the number is packed as the pattern that it was read from.  A number that
is packed without rounding is read again from its pattern.
-/

namespace ForeignBindings

/-- The floating-point format of a primitive type. -/
def Primitive.floatFormat? : Primitive → Option BinaryFormat
  | .f32 => some .single
  | .f64 => some .double
  | _ => none

/-- Whether a value is a floating-point number of eight bytes. -/
def Json.IsFloat (value : Json) : Prop :=
  ∃ bits finite, value = .number (.float bits finite) ∧ bits < 2 ^ 64

/-- A scalar is an integer or a floating-point number. -/
theorem Primitive.integer_or_float {primitive : Primitive} {width : Nat}
    (scalar : primitive.width? = some width) :
    (∃ type, primitive.integerType? = some type) ∨
      ∃ format, primitive.floatFormat? = some format := by
  cases primitive <;> first | exact .inl ⟨_, rfl⟩ | exact .inr ⟨_, rfl⟩ | cases scalar

theorem Primitive.floatFormat?_eq_none {primitive : Primitive} {type : IntegerType}
    (integer : primitive.integerType? = some type) : primitive.floatFormat? = none := by
  cases primitive <;> cases integer <;> rfl

namespace ByteOrder

theorem lowBytes_ofLowBytes (bytes : List UInt8) :
    lowBytes bytes.length (ofLowBytes bytes) = bytes := by
  induction bytes with
  | nil => rfl
  | cons byte bytes induction =>
      have small := byte.toNat_lt
      have low : UInt8.ofNat (byte.toNat + 256 * ofLowBytes bytes) = byte := by
        rw [← UInt8.toNat_inj, UInt8.toNat_ofNat']
        omega
      have high : (byte.toNat + 256 * ofLowBytes bytes) / 256 = ofLowBytes bytes := by omega
      rw [List.length_cons, ofLowBytes, lowBytes, low, high, induction]

/-- The bytes of a number that was read are the bytes that it was read from. -/
theorem bytes_number (order : ByteOrder) (bytes : List UInt8) :
    order.bytes bytes.length (order.number bytes) = bytes := by
  cases order with
  | little => exact lowBytes_ofLowBytes bytes
  | big =>
      rw [ByteOrder.bytes, ByteOrder.number, ← List.length_reverse, lowBytes_ofLowBytes,
        List.reverse_reverse]

end ByteOrder

theorem Json.exists_of_integer? {value : Json} {integer : Int}
    (known : value.integer? = some integer) :
    ∃ lower upper, value = .number (.integer integer lower upper) := by
  cases value with
  | number held =>
      cases held with
      | integer held lower upper =>
          obtain rfl := Option.some.inj known
          exact ⟨lower, upper, rfl⟩
      | float => cases known
  | _ => cases known

namespace Fixed

variable {primitive : Primitive} {type : IntegerType} {pattern : Nat}

/-- The pattern of an integer stands for it. -/
theorem ofPattern_of_pattern? (integer : primitive.integerType? = some type) {value : Json}
    (packed : pattern? primitive value = some pattern) :
    value.integer? = some (type.ofPattern pattern) ∧ pattern < type.patterns := by
  have count := type.patterns_eq
  have positive : 0 < type.patterns := Nat.two_pow_pos _
  rw [pattern?_eq integer] at packed
  rw [IntegerType.ofPattern]
  split at packed
  case isTrue isSigned =>
    obtain ⟨number, signed, packed⟩ := Option.bind_eq_some_iff.mp packed
    simp only [signedPattern?, ← count, Option.ite_none_right_eq_some, Option.some.injEq] at packed
    obtain ⟨fits, rfl⟩ := packed
    have nonneg := Int.emod_nonneg number (b := type.patterns) (by omega)
    have small := Int.emod_lt_of_pos number (b := type.patterns) (by omega)
    rw [if_pos isSigned, Int.toNat_of_nonneg nonneg, Int.emod_bmod, fits]
    exact ⟨Json.integer?_of_asSigned? signed, by omega⟩
  case isFalse isUnsigned =>
    obtain ⟨number, unsigned, packed⟩ := Option.bind_eq_some_iff.mp packed
    simp only [unsignedPattern?, ← count, Option.ite_none_right_eq_some,
      Option.some.injEq] at packed
    obtain ⟨small, rfl⟩ := packed
    rw [if_neg isUnsigned]
    exact ⟨Json.integer?_of_asUnsigned? unsigned, small⟩

/-- An integer is read from its pattern. -/
theorem exists_number?_of_pattern? (integer : primitive.integerType? = some type) {value : Json}
    (packed : pattern? primitive value = some pattern) :
    ∃ number, value = .number number ∧ number? primitive pattern = some number := by
  obtain ⟨lower, upper, rfl⟩ :=
    Json.exists_of_integer? (ofPattern_of_pattern? integer packed).1
  exact ⟨_, rfl, by rw [number?_eq integer, Json.Number.ofInt?, dif_pos lower, dif_pos upper]⟩

/-- The integer that a pattern stands for has this pattern. -/
theorem pattern?_of_integer? (integer : primitive.integerType? = some type)
    (small : pattern < type.patterns) {number : Json.Number}
    (held : (Json.number number).integer? = some (type.ofPattern pattern)) :
    pattern? primitive (.number number) = some pattern := by
  have count := type.patterns_eq
  have most : type.patterns ≤ 2 ^ (8 * 8) :=
    Nat.pow_le_pow_right (by decide) (Nat.mul_le_mul_left 8 (IntegerType.width_le integer))
  have positive : 0 < type.patterns := Nat.two_pow_pos _
  obtain ⟨lower, upper, isNumber⟩ := Json.exists_of_integer? held
  rw [pattern?_eq integer, isNumber]
  simp only [Json.asSigned?, Json.asUnsigned?, Json.number?, Option.bind_some,
    Json.Number.asSigned?, Json.Number.asUnsigned?]
  split
  case isTrue isSigned =>
    have value : type.ofPattern pattern = (pattern : Int).bmod type.patterns := if_pos isSigned
    have highest := Int.bmod_lt (x := pattern) positive
    have signed : (pattern : Int).bmod type.patterns < Json.signedLimit := by
      rw [Json.signedLimit]
      omega
    rw [value, if_pos signed, Option.bind_some, signedPattern?, ← count, Int.bmod_bmod]
    simp only [if_true, Int.bmod_emod, Option.some.injEq]
    rw [← Int.natCast_emod, Nat.mod_eq_of_lt small, Int.toNat_natCast]
  case isFalse isUnsigned =>
    have value : type.ofPattern pattern = pattern := if_neg isUnsigned
    rw [value, if_pos (Int.natCast_nonneg pattern), Int.toNat_natCast, Option.bind_some,
      unsignedPattern?, ← count, if_pos small]

variable {format : BinaryFormat}

/-- A floating-point type has as many patterns as its format. -/
theorem patternCount_eq_of_floatFormat? {width : Nat} (scalar : primitive.width? = some width)
    (float : primitive.floatFormat? = some format) :
    ByteOrder.patternCount width = 2 * format.signUnit := by
  cases primitive <;> cases float <;> cases scalar <;> decide

/-- A finite pattern stands for a number, which is packed as this pattern. -/
theorem exists_number?_of_isFinite (float : primitive.floatFormat? = some format)
    (finite : format.isFinite pattern) (small : pattern < 2 * format.signUnit) :
    ∃ number, number? primitive pattern = some number ∧
      pattern? primitive (.number number) = some pattern := by
  cases primitive <;> cases float
  case f32 =>
    obtain ⟨converted, -⟩ := BinaryFormat.convert_spec BinaryFormat.embeds_single_double finite
    have back := BinaryFormat.convert_convert BinaryFormat.embeds_single_double finite small
    refine ⟨.float _ converted, ?_, ?_⟩
    · rw [number?, if_pos finite, Json.Number.ofBits?, dif_pos converted]
    · rw [pattern?, Json.number?, Option.map_some, Json.Number.doubleBits, back]
  case f64 =>
    exact ⟨.float pattern finite, by rw [number?, Json.Number.ofBits?, dif_pos finite], rfl⟩

/-- An infinity or a NaN stands for no number. -/
theorem number?_eq_none_of_not_isFinite (float : primitive.floatFormat? = some format)
    (notFinite : ¬ format.isFinite pattern) : number? primitive pattern = none := by
  cases primitive <;> cases float
  case f32 => rw [number?, if_neg notFinite]
  case f64 => rw [number?, Json.Number.ofBits?, dif_neg notFinite]

/-- A pattern stands for a number that is packed as this pattern, or it is an infinity or a NaN of a
floating-point type and stands for none. -/
theorem number?_spec {width : Nat} (scalar : primitive.width? = some width)
    (small : pattern < ByteOrder.patternCount width) :
    (∃ number, number? primitive pattern = some number ∧
        pattern? primitive (.number number) = some pattern ∧
        ∀ format, primitive.floatFormat? = some format → format.isFinite pattern) ∨
      number? primitive pattern = none ∧
        ∃ format, primitive.floatFormat? = some format ∧ ¬ format.isFinite pattern := by
  rcases Primitive.integer_or_float scalar with ⟨type, integer⟩ | ⟨format, float⟩
  · cases (IntegerType.width?_eq integer).symm.trans scalar
    rw [← type.patterns_eq] at small
    obtain ⟨number, read, value⟩ := exists_number? integer small
    refine .inl ⟨number, read, pattern?_of_integer? integer small value, fun format float => ?_⟩
    cases (Primitive.floatFormat?_eq_none integer).symm.trans float
  · rw [patternCount_eq_of_floatFormat? scalar float] at small
    by_cases finite : format.isFinite pattern
    · obtain ⟨number, read, packed⟩ := exists_number?_of_isFinite float finite small
      refine .inl ⟨number, read, packed, fun other same => ?_⟩
      cases float.symm.trans same
      exact finite
    · exact .inr ⟨number?_eq_none_of_not_isFinite float finite, format, float, finite⟩

/-- A value of an integer type and a floating-point number of eight bytes are read from their
patterns. -/
theorem number?_of_pattern? {width : Nat} (scalar : primitive.width? = some width) {value : Json}
    (exact : (∃ type, primitive.integerType? = some type) ∨ primitive = .f64 ∧ value.IsFloat)
    (packed : pattern? primitive value = some pattern) :
    pattern < ByteOrder.patternCount width ∧
      ∃ number, value = .number number ∧ number? primitive pattern = some number := by
  rcases exact with ⟨type, integer⟩ | ⟨rfl, bits, finite, rfl, small⟩
  · cases (IntegerType.width?_eq integer).symm.trans scalar
    rw [← type.patterns_eq]
    exact ⟨(ofPattern_of_pattern? integer packed).2, exists_number?_of_pattern? integer packed⟩
  · cases scalar
    obtain rfl : bits = pattern := Option.some.inj packed
    exact ⟨small, _, rfl, by rw [number?, Json.Number.ofBits?, dif_pos finite]⟩

end Fixed
end ForeignBindings
