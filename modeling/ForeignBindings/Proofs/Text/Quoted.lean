import ForeignBindings.Proofs.Json.Scalars
import ForeignBindings.Text.Blank
import ForeignBindings.Text.Quoted

/-!
# Reading quoted literals

A quoted literal is read back letter by letter, whatever has to be escaped in it, and it never
breaks a line.
-/

namespace ForeignBindings
namespace Text

/-- Whether characters stay on one line. -/
def StaysOnLine (letters : List Char) : Prop :=
  ∀ letter ∈ letters, letter ≠ '\n' ∧ letter ≠ '\r'

instance (letters : List Char) : Decidable (StaysOnLine letters) :=
  List.decidableBAll (fun letter => letter ≠ '\n' ∧ letter ≠ '\r') letters

theorem staysOnLine_append {left right : List Char} :
    StaysOnLine (left ++ right) ↔ StaysOnLine left ∧ StaysOnLine right :=
  List.forall_mem_append

theorem lines_append {line : List Char} (stays : StaysOnLine line) (rest : List Char) :
    lines (line ++ '\n' :: rest) = line :: lines rest := by
  induction line with
  | nil => rfl
  | cons letter line induction =>
      obtain ⟨⟨notFeed, notReturn⟩, line_stays⟩ := List.forall_mem_cons.mp stays
      rw [List.cons_append, lines, induction line_stays]
      · exact notFeed
      · exact fun _ same => absurd same notReturn

namespace Quoted

/-- Where the reader of a quoted literal stands. -/
inductive Position where
  | plain
  /-- Behind a backslash. -/
  | escaped
  /-- Before the opening brace of a code point. -/
  | braced
  /-- Within the braces of a code point, behind digits of a value. -/
  | digits (value : Nat)

/-- The character of an escape of two characters. -/
def shortEscape? : Char → Option Char
  | '0' => some '\x00'
  | 't' => some '\t'
  | 'n' => some '\n'
  | 'r' => some '\r'
  | '"' => some '"'
  | '\\' => some '\\'
  | _ => none

/-- The letters up to the closing quote, behind the letters `taken` in reverse, and what follows. -/
def readLetters : Position → List Char → List Char → Option (List Char × List Char)
  | _, _, [] => none
  | .plain, taken, letter :: rest =>
      if letter = '"' then some (taken.reverse, rest)
      else if letter = '\\' then readLetters .escaped taken rest
      else readLetters .plain (letter :: taken) rest
  | .escaped, taken, letter :: rest =>
      if letter = 'u' then readLetters .braced taken rest
      else (shortEscape? letter).bind fun known => readLetters .plain (known :: taken) rest
  | .braced, taken, letter :: rest =>
      if letter = '\x7b' then readLetters (.digits 0) taken rest else none
  | .digits value, taken, letter :: rest =>
      match Json.hexDigit? letter with
      | some digit => readLetters (.digits (value * 16 + digit)) taken rest
      | none =>
          if letter = '\x7d' then readLetters .plain (Char.ofNat value :: taken) rest else none

/-- The letters of the quoted literal that a text starts with, and what follows. -/
def read? (text : List Char) : Option (List Char × List Char) :=
  match text with
  | '"' :: rest => readLetters .plain [] rest
  | _ => none

theorem readLetters_digit {letter : Char} {digit : Nat} (known : Json.hexDigit? letter = some digit)
    (value : Nat) (taken rest : List Char) :
    readLetters (.digits value) taken (letter :: rest) =
      readLetters (.digits (value * 16 + digit)) taken rest := by
  rw [readLetters, known]

theorem readLetters_toDigits (number : Nat) (taken rest : List Char) :
    readLetters (.digits 0) taken (Nat.toDigits 16 number ++ rest) =
      readLetters (.digits number) taken rest := by
  induction number using Nat.strongRecOn generalizing rest with
  | _ number induction =>
      rcases Nat.lt_or_ge number 16 with small | large
      · have only := Json.hexDigit?_digitChar small
        rw [Nat.toDigits_of_lt_base small, List.singleton_append, readLetters_digit only,
          Nat.zero_mul, Nat.zero_add]
      · have smaller : number / 16 < number := by omega
        have last := Json.hexDigit?_digitChar (Nat.mod_lt number (show 0 < 16 by decide))
        rw [Nat.toDigits_of_base_le (by decide) large, List.append_assoc,
          List.singleton_append, induction _ smaller, readLetters_digit last,
          Nat.div_add_mod']

theorem readLetters_escape (letter : Char) (taken rest : List Char) :
    readLetters .plain taken (escape letter ++ rest) =
      readLetters .plain (letter :: taken) rest := by
  unfold escape
  split
  case h_7 quote backslash =>
    split
    case isTrue =>
      rw [List.singleton_append, readLetters, if_neg quote, if_neg backslash]
    case isFalse =>
      have closing : Json.hexDigit? '\x7d' = none := by decide
      simp only [codePointEscape, List.cons_append, List.nil_append, List.append_assoc,
        readLetters, if_true, if_false, Char.reduceEq, readLetters_toDigits,
        closing, Char.ofNat_toNat]
  all_goals rfl

/-- A quoted literal is read back. -/
theorem read?_encode (letters rest : List Char) :
    read? (encode letters ++ rest) = some (letters, rest) := by
  have body : ∀ taken, readLetters .plain taken (letters.flatMap escape ++ '"' :: rest) =
      some (taken.reverse ++ letters, rest) := by
    induction letters with
    | nil => simp [readLetters]
    | cons letter letters induction =>
        intro taken
        rw [List.flatMap_cons, List.append_assoc, readLetters_escape, induction]
        simp
  simp [encode, read?, body]

theorem staysOnLine_toDigits (number : Nat) : StaysOnLine (Nat.toDigits 16 number) := by
  have digits : ∀ digit < 16, Nat.digitChar digit ≠ '\n' ∧ Nat.digitChar digit ≠ '\r' := by decide
  induction number using Nat.strongRecOn with
  | _ number induction =>
      rcases Nat.lt_or_ge number 16 with small | large
      · rw [Nat.toDigits_of_lt_base small]
        exact List.forall_mem_singleton.mpr (digits number small)
      · have smaller : number / 16 < number := by omega
        rw [Nat.toDigits_of_base_le (by decide) large, staysOnLine_append]
        exact ⟨induction _ smaller,
          List.forall_mem_singleton.mpr (digits _ (Nat.mod_lt number (by decide)))⟩

theorem staysOnLine_escape (letter : Char) : StaysOnLine (escape letter) := by
  unfold escape
  split
  case h_7 notFeed notReturn _ _ =>
    split
    case isTrue => exact List.forall_mem_singleton.mpr ⟨notFeed, notReturn⟩
    case isFalse =>
      rw [codePointEscape, staysOnLine_append, staysOnLine_append]
      exact ⟨⟨by decide, staysOnLine_toDigits _⟩, by decide⟩
  all_goals decide

/-- A quoted literal stays on its line. -/
theorem staysOnLine_encode (letters : List Char) : StaysOnLine (encode letters) := by
  have body : StaysOnLine (letters.flatMap escape) := by
    rintro letter inside
    obtain ⟨source, _, written⟩ := List.mem_flatMap.mp inside
    exact staysOnLine_escape source letter written
  have quote : StaysOnLine ['"'] := by decide
  exact staysOnLine_append.mpr ⟨staysOnLine_append.mpr ⟨quote, body⟩, quote⟩

end Quoted
end Text
end ForeignBindings
