import ForeignBindings.Json.Reader

/-!
# Reading printed scalars

The readers of strings and numbers undo the printer.  A string is read letter by letter, whatever
has to be escaped in it; an integer is read digit by digit, provided that what follows it cannot
belong to a number.
-/

namespace ForeignBindings
namespace Json

theorem hexDigit?_digitChar {digit : Nat} (small : digit < 16) :
    hexDigit? (Nat.digitChar digit) = some digit := by
  revert digit
  decide

theorem hasFourBytes_of_four (first second third fourth : Char) (rest : Input) :
    hasFourBytes (some first :: some second :: some third :: some fourth :: rest) = true := by
  have first_size := first.utf8Size_pos
  have second_size := second.utf8Size_pos
  have third_size := third.utf8Size_pos
  have fourth_size := fourth.utf8Size_pos
  simp only [hasFourBytes, List.take_succ_cons, List.take_zero, List.foldr_cons, List.foldr_nil,
    Text.Piece.byteCount]
  exact decide_eq_true (by omega)

/-- A control without a short escape is read from its four digits. -/
theorem readChars_control {letter : Char} (control : letter.toNat < 0x20) (wellFormed : Bool)
    (taken : List Char) (rest : Input) :
    readChars .plain wellFormed taken
        (['\\', 'u', '0', '0', Nat.digitChar (letter.toNat / 16),
          Nat.digitChar (letter.toNat % 16)].map some ++ rest) =
      readChars .plain wellFormed (letter :: taken) rest := by
  have zero : hexDigit? '0' = some 0 := by decide
  have high := hexDigit?_digitChar (show letter.toNat / 16 < 16 by omega)
  have low := hexDigit?_digitChar (show letter.toNat % 16 < 16 by omega)
  have whole : letter.toNat / 16 * 16 + letter.toNat % 16 = letter.toNat := by omega
  have finished : finishEscape none letter.toNat = .ok (.plain, some letter) := by
    simp only [finishEscape]
    rw [if_neg (by omega), if_neg (by omega), Char.ofNat_toNat]
  simp [readChars, hasFourBytes_of_four, zero, high, low, whole, finished]

theorem readChars_escape (letter : Char) (wellFormed : Bool) (taken : List Char) (rest : Input) :
    readChars .plain wellFormed taken ((escape letter).map some ++ rest) =
      readChars .plain wellFormed (letter :: taken) rest := by
  unfold escape
  split
  case h_8 quote backslash _ _ _ _ _ =>
    split
    case isTrue control => exact readChars_control control wellFormed taken rest
    case isFalse visible =>
      simp only [List.map_cons, List.map_nil, List.cons_append, List.nil_append]
      rw [readChars, if_neg visible]
      · exact quote
      · exact backslash
  all_goals simp [readChars, shortEscape?]

theorem readChars_flatMap_escape (letters : List Char) (wellFormed : Bool) (taken : List Char)
    (rest : Input) :
    readChars .plain wellFormed taken ((letters.flatMap escape).map some ++ rest) =
      readChars .plain wellFormed (letters.reverse ++ taken) rest := by
  induction letters generalizing taken with
  | nil => rfl
  | cons letter letters induction =>
      rw [List.flatMap_cons, List.map_append, List.append_assoc, readChars_escape, induction]
      simp

/-- A printed string is read back from behind its opening quote. -/
theorem readString_escape (text : String) (rest : Input) :
    readString ((text.toList.flatMap escape).map some ++ some '"' :: rest) = .ok (text, rest) := by
  rw [readString, readChars_flatMap_escape, readChars]
  simp

/-- The decimal digits of a number, the highest first. -/
def decimalDigits (number : Nat) : List Nat :=
  (Nat.toDigits 10 number).map fun digit => digit.toNat - '0'.toNat

theorem decimalDigits_of_lt {number : Nat} (small : number < 10) :
    decimalDigits number = [number] := by
  rw [decimalDigits, Nat.toDigits_of_lt_base small, List.map_singleton]
  exact congrArg (fun digit => [digit]) (Nat.toNat_digitChar_sub_48_of_lt_ten small)

theorem decimalDigits_of_le {number : Nat} (large : 10 ≤ number) :
    decimalDigits number = decimalDigits (number / 10) ++ [number % 10] := by
  rw [decimalDigits, Nat.toDigits_of_base_le (by decide) large, List.map_append,
    List.map_singleton]
  exact congrArg (fun digit => decimalDigits (number / 10) ++ [digit])
    (Nat.toNat_digitChar_sub_48_of_lt_ten (Nat.mod_lt number (by decide)))

theorem decimalDigits_ne_nil (number : Nat) : decimalDigits number ≠ [] := by
  simp [decimalDigits]

theorem digitsValue_decimalDigits (number : Nat) :
    digitsValue (decimalDigits number) = number := by
  rw [digitsValue, decimalDigits, List.foldl_map]
  have value : Nat.ofDigitChars 10 (Nat.toDigits 10 number) 0 = number :=
    Nat.ofDigitChars_ten_toDigits
  simpa only [Nat.ofDigitChars_eq_foldl, Nat.mul_comm] using value

/-- The digits of a positive number do not start with a zero. -/
theorem head?_decimalDigits_ne_zero {number : Nat} (positive : 0 < number) :
    (decimalDigits number).head? ≠ some 0 := by
  induction number using Nat.strongRecOn with
  | _ number induction =>
      by_cases small : number < 10
      · rw [decimalDigits_of_lt small]
        simpa using Nat.ne_of_gt positive
      · have shorter := induction (number / 10) (by omega) (by omega)
        rw [decimalDigits_of_le (by omega)]
        cases digits : decimalDigits (number / 10) with
        | nil => exact absurd digits (decimalDigits_ne_nil (number / 10))
        | cons first others => simpa [digits] using shorter

theorem decimalDigits_ne_zero_cons (number second : Nat) (others : List Nat) :
    decimalDigits number ≠ 0 :: second :: others := by
  intro leading
  by_cases small : number < 10
  · simp [decimalDigits_of_lt small] at leading
  · have positive : 0 < number := by omega
    exact head?_decimalDigits_ne_zero positive (by rw [leading]; rfl)

/-- Whether a number that stops before an input is complete there: neither a digit nor a fraction
nor an exponent follows. -/
def endsNumber : Input → Bool
  | some letter :: _ => !letter.isDigit && letter != '.' && letter != 'e' && letter != 'E'
  | _ => true

theorem digitRun_append {digits : List Char} (areDigits : ∀ digit ∈ digits, digit.isDigit)
    {rest : Input} (ends : endsNumber rest) :
    digitRun (digits.map some ++ rest) =
      (digits.map fun digit => digit.toNat - '0'.toNat, rest) := by
  induction digits with
  | nil =>
      match rest with
      | [] => rfl
      | none :: _ => rfl
      | some letter :: _ =>
          have noDigit : letter.isDigit = false := by simp_all [endsNumber]
          simp [digitRun, noDigit]
  | cons digit digits induction =>
      obtain ⟨isDigit, tail_areDigits⟩ := List.forall_mem_cons.mp areDigits
      simp [digitRun, isDigit, induction tail_areDigits]

theorem expectDigits_toDigits (number : Nat) {rest : Input} (ends : endsNumber rest) :
    expectDigits ((Nat.toDigits 10 number).map some ++ rest) =
      .ok (decimalDigits number, rest) := by
  have areDigits : ∀ digit ∈ Nat.toDigits 10 number, digit.isDigit := fun _ member =>
    Nat.isDigit_of_mem_toDigits (by decide) (by decide) member
  rw [expectDigits, digitRun_append areDigits ends, ← decimalDigits]
  cases digits : decimalDigits number with
  | nil => exact absurd digits (decimalDigits_ne_nil number)
  | cons first others => rfl

theorem readFraction_of_endsNumber (negative : Bool) (whole : List Nat) {rest : Input}
    (ends : endsNumber rest) :
    readFraction negative whole rest =
      (integerNumber negative (digitsValue whole)).map fun number => (number, rest) := by
  rw [readFraction]
  · cases integerNumber negative (digitsValue whole) <;> rfl
  all_goals
    rintro after rfl
    simp [endsNumber] at ends

theorem readNumber_toDigits (negative : Bool) (number : Nat) {rest : Input}
    (ends : endsNumber rest) :
    readNumber negative ((Nat.toDigits 10 number).map some ++ rest) =
      (integerNumber negative number).map fun number => (number, rest) := by
  have fraction := readFraction_of_endsNumber negative (decimalDigits number) ends
  rw [digitsValue_decimalDigits] at fraction
  rw [readNumber, expectDigits_toDigits number ends]
  simp only [bind, Except.bind]
  split
  · rename_i leading
    exact absurd leading (decimalDigits_ne_zero_cons number _ _)
  · exact fraction

theorem integerNumber_natAbs {value : Int} (lower : leastInteger ≤ value)
    (upper : value < unsignedLimit) :
    integerNumber (decide (value < 0)) value.natAbs = .ok (.integer value lower upper) := by
  have notNegativeZero : (decide (value < 0) && value.natAbs == 0) = false := by
    by_cases negative : value < 0
    · have nonzero : value.natAbs ≠ 0 := by omega
      simp [nonzero]
    · simp [negative]
  have signed : (if decide (value < 0) then -(value.natAbs : Int) else value.natAbs) = value := by
    by_cases negative : value < 0
    · simp only [negative, decide_true, if_true]
      omega
    · simp only [negative, decide_false, Bool.false_eq_true, if_false]
      omega
  rw [integerNumber, notNegativeZero, signed, Number.ofInt?, dif_pos lower, dif_pos upper]
  rfl

/-- A printed integer is read back if what follows cannot belong to it. -/
theorem readScalar_integerChars {value : Int} (lower : leastInteger ≤ value)
    (upper : value < unsignedLimit) {rest : Input} (ends : endsNumber rest) :
    readScalar ((Number.integerChars value).map some ++ rest) =
      .ok (.number (.integer value lower upper), rest) := by
  have read := readNumber_toDigits (decide (value < 0)) value.natAbs ends
  rw [integerNumber_natAbs lower upper] at read
  by_cases negative : value < 0
  · simp only [negative, decide_true] at read
    simp only [Number.integerChars, negative, if_true, List.cons_append, List.nil_append,
      List.map_cons]
    rw [readScalar, read]
    rfl
  · simp only [negative, decide_false] at read
    simp only [Number.integerChars, negative, if_false, List.nil_append]
    obtain ⟨first, others, written⟩ :=
      List.exists_cons_of_ne_nil (Nat.toDigits_ne_nil (n := value.natAbs) (b := 10))
    have isDigit : first.isDigit :=
      Nat.isDigit_of_mem_toDigits (b := 10) (by decide) (by decide)
        (written ▸ List.mem_cons_self)
    rw [written] at read ⊢
    simp only [List.map_cons, List.cons_append] at read ⊢
    rw [readScalar, if_pos isDigit, read]
    · rfl
    all_goals
      rintro rfl
      exact absurd isDigit (by decide)

end Json
end ForeignBindings
