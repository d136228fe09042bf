import ForeignBindings.Name
import ForeignBindings.Proofs.Text.Quoted
import Mathlib.Data.List.Infix

/-!
# String values of literals

The string literals of a strict-mode module that stand between double quotes, with the UTF-16 code
units that they denote.  A quoted text is such a literal, it ends at its own closing quote and it
denotes the text, unless a null character comes directly before a decimal digit in the text: the
null character is written as `\0`, and no decimal digit may follow this escape.
-/

namespace ForeignBindings
namespace Text

/-- The UTF-16 code units of a code point. -/
def codeUnits (code : Nat) : List Nat :=
  if code < 0x10000 then [code]
  else [0xD800 + (code - 0x10000) / 0x400, 0xDC00 + (code - 0x10000) % 0x400]

/-- The UTF-16 code units of characters. -/
def utf16 (letters : List Char) : List Nat :=
  letters.flatMap fun letter => codeUnits letter.toNat

namespace StringLiteral

/-- The value of a fixed count of hexadecimal digits behind a value, and what follows them. -/
def hexDigits? : Nat → Nat → List Char → Option (Nat × List Char)
  | 0, value, text => some (value, text)
  | _ + 1, _, [] => none
  | count + 1, value, letter :: rest =>
      (Json.hexDigit? letter).bind fun digit => hexDigits? count (value * 16 + digit) rest

/-- The code point whose hexadecimal digits go up to a closing brace, and what follows the brace.
There is at least one digit. -/
def bracedDigits? (value? : Option Nat) : List Char → Option (Nat × List Char)
  | [] => none
  | letter :: rest =>
      match Json.hexDigit? letter with
      | some digit => bracedDigits? (some (value?.getD 0 * 16 + digit)) rest
      | none => value?.bind fun value =>
          if letter = '\x7d' ∧ value ≤ 0x10FFFF then some (value, rest) else none

/-- The character that a backslash before one character stands for: a control for some letters, and
any other character for itself. -/
def simpleEscape : Char → Char
  | 'b' => '\x08'
  | 't' => '\t'
  | 'n' => '\n'
  | 'v' => '\x0b'
  | 'f' => '\x0c'
  | 'r' => '\r'
  | letter => letter

/-- Whether a character ends a line. -/
def endsLine (letter : Char) : Bool :=
  letter == '\n' || letter == '\r' || letter == '\u2028' || letter == '\u2029'

/-- Whether a text starts with a decimal digit. -/
def startsWithDigit (text : List Char) : Bool :=
  text.head?.any Char.isDigit

/-- The code units of the escape that stands behind a backslash, and what follows it.  A line that
is continued contributes nothing.  The octal escapes are those that strict mode forbids, as it does
`\8` and `\9`. -/
def escape? : List Char → Option (List Nat × List Char)
  | [] => none
  | '\r' :: '\n' :: rest => some ([], rest)
  | 'x' :: rest => (hexDigits? 2 0 rest).map fun read => ([read.1], read.2)
  | 'u' :: '\x7b' :: rest =>
      (bracedDigits? none rest).map fun read => (codeUnits read.1, read.2)
  | 'u' :: rest => (hexDigits? 4 0 rest).map fun read => ([read.1], read.2)
  | '0' :: rest => if startsWithDigit rest then none else some ([0], rest)
  | letter :: rest =>
      if letter.isDigit then none
      else if endsLine letter then some ([], rest)
      else some (codeUnits (simpleEscape letter).toNat, rest)

theorem length_le_of_hexDigits? {count value : Nat} {text : List Char} {read : Nat × List Char}
    (known : hexDigits? count value text = some read) : read.2.length ≤ text.length := by
  fun_induction hexDigits? count value text with
  | case1 value text =>
      cases known
      exact Nat.le_refl _
  | case2 => cases known
  | case3 value count letter rest induction =>
      obtain ⟨digit, -, known⟩ := Option.bind_eq_some_iff.mp known
      exact Nat.le_succ_of_le (induction digit known)

theorem length_le_of_bracedDigits? {value? : Option Nat} {text : List Char}
    {read : Nat × List Char} (known : bracedDigits? value? text = some read) :
    read.2.length ≤ text.length := by
  fun_induction bracedDigits? value? text with
  | case1 => cases known
  | case2 value? letter rest digit isDigit induction => exact Nat.le_succ_of_le (induction known)
  | case3 value? letter rest noDigit =>
      obtain ⟨value, -, known⟩ := Option.bind_eq_some_iff.mp known
      obtain ⟨-, read⟩ := Option.ite_none_right_eq_some.mp known
      cases read
      exact Nat.le_succ _

/-- An escape takes at least one character. -/
theorem length_le_of_escape? {text : List Char} {read : List Nat × List Char}
    (known : escape? text = some read) : read.2.length ≤ text.length := by
  unfold escape? at known
  split at known
  case h_3 | h_5 =>
    obtain ⟨digits, digits_read, rfl⟩ := Option.map_eq_some_iff.mp known
    exact Nat.le_succ_of_le (length_le_of_hexDigits? digits_read)
  case h_4 =>
    obtain ⟨digits, digits_read, rfl⟩ := Option.map_eq_some_iff.mp known
    have shorter := length_le_of_bracedDigits? digits_read
    simp only [List.length_cons]
    omega
  all_goals grind

/-- The code units up to the closing quote of a literal, and what follows the quote. -/
def body? (text : List Char) : Option (List Nat × List Char) :=
  match text with
  | [] => none
  | '"' :: rest => some ([], rest)
  | '\\' :: rest =>
      match _read : escape? rest with
      | none => none
      | some (units, after) =>
          (body? after).map fun read => (units ++ read.1, read.2)
  | letter :: rest =>
      if letter = '\n' ∨ letter = '\r' then none
      else (body? rest).map fun read => (codeUnits letter.toNat ++ read.1, read.2)
termination_by text.length
decreasing_by
  · exact Nat.lt_succ_of_le (length_le_of_escape? ‹_›)
  · simp

/-- The code units of the literal that a text starts with, and what follows the literal. -/
def read? : List Char → Option (List Nat × List Char)
  | '"' :: rest => body? rest
  | _ => none

variable {rest : List Char}

theorem body?_of_escape? {units : List Nat} {text after : List Char}
    (known : escape? text = some (units, after)) :
    body? ('\\' :: text) = (body? after).map fun read => (units ++ read.1, read.2) := by
  rw [body?]
  split
  case h_1 none => cases known.symm.trans none
  case h_2 found =>
    cases known.symm.trans found
    rfl

theorem body?_of_escape?_eq_none {text : List Char} (known : escape? text = none) :
    body? ('\\' :: text) = none := by
  rw [body?]
  split
  case h_1 => rfl
  case h_2 found => cases known.symm.trans found

theorem bracedDigits?_digit {letter : Char} {digit : Nat}
    (known : Json.hexDigit? letter = some digit) (value? : Option Nat) :
    bracedDigits? value? (letter :: rest) =
      bracedDigits? (some (value?.getD 0 * 16 + digit)) rest := by
  rw [bracedDigits?, known]

theorem bracedDigits?_toDigits (number : Nat) (rest : List Char) :
    bracedDigits? none (Nat.toDigits 16 number ++ rest) = bracedDigits? (some number) rest := by
  induction number using Nat.strongRecOn generalizing rest with
  | _ number induction =>
      rcases Nat.lt_or_ge number 16 with small | large
      · have only := Json.hexDigit?_digitChar small
        rw [Nat.toDigits_of_lt_base small, List.singleton_append, bracedDigits?_digit only,
          Option.getD_none, Nat.zero_mul, Nat.zero_add]
      · have smaller : number / 16 < number := by omega
        have last := Json.hexDigit?_digitChar (Nat.mod_lt number (show 0 < 16 by decide))
        rw [Nat.toDigits_of_base_le (by decide) large, List.append_assoc,
          List.singleton_append, induction _ smaller, bracedDigits?_digit last,
          Option.getD_some, Nat.div_add_mod']

/-- The escape by a code point denotes the character. -/
theorem escape?_codePoint (letter : Char) (rest : List Char) :
    escape? ('u' :: '\x7b' :: (Nat.toDigits 16 letter.toNat ++ '\x7d' :: rest)) =
      some (codeUnits letter.toNat, rest) := by
  have closing : Json.hexDigit? '\x7d' = none := by decide
  have bounded : letter.toNat ≤ 0x10FFFF := by
    rcases letter.valid with low | high
    · exact Nat.le_trans (Nat.le_of_lt low) (by decide)
    · exact Nat.le_of_lt_succ high.2
  rw [escape?, bracedDigits?_toDigits, bracedDigits?, closing]
  simp [bounded]

/-- A character as it is written between quotes denotes the character, unless it is the null
character and a decimal digit follows. -/
theorem body?_escape {letter : Char} (apart : letter = '\x00' → startsWithDigit rest = false) :
    body? (Quoted.escape letter ++ rest) =
      (body? rest).map fun read => (codeUnits letter.toNat ++ read.1, read.2) := by
  unfold Quoted.escape
  split
  case h_1 =>
    have known : escape? ('0' :: rest) = some ([0], rest) := by
      rw [escape?, apart rfl, if_neg Bool.false_ne_true]
    exact body?_of_escape? known
  case h_7 null tab feed returns quote backslash =>
    split
    case isTrue =>
      rw [List.singleton_append, body?, if_neg (not_or.mpr ⟨feed, returns⟩)]
      · exact quote
      · exact backslash
    case isFalse =>
      rw [Quoted.codePointEscape]
      simp only [List.cons_append, List.nil_append, List.append_assoc]
      exact body?_of_escape? (escape?_codePoint letter rest)
  all_goals exact body?_of_escape? rfl

/-- Whether a null character stands directly before a decimal digit. -/
def HasNullBeforeDigit (letters : List Char) : Prop :=
  ∃ digit : Char, digit.isDigit ∧ ['\x00', digit] <:+: letters

theorem hasNullBeforeDigit_cons {letter : Char} {letters : List Char} :
    HasNullBeforeDigit (letter :: letters) ↔
      letter = '\x00' ∧ startsWithDigit letters ∨ HasNullBeforeDigit letters := by
  simp only [HasNullBeforeDigit, List.infix_cons_iff, List.cons_prefix_cons, and_or_left, exists_or]
  refine or_congr_left ⟨?_, ?_⟩
  · rintro ⟨digit, isDigit, rfl, rest, rfl⟩
    exact ⟨rfl, isDigit⟩
  · rintro ⟨rfl, starts⟩
    cases letters with
    | nil => cases starts
    | cons digit rest => exact ⟨digit, starts, rfl, rest, rfl⟩

theorem not_hasNullBeforeDigit_nil : ¬ HasNullBeforeDigit [] := by
  rintro ⟨digit, -, inside⟩
  cases List.infix_nil.mp inside

instance decidableHasNullBeforeDigit :
    (letters : List Char) → Decidable (HasNullBeforeDigit letters)
  | [] => isFalse not_hasNullBeforeDigit_nil
  | _ :: letters =>
      have := decidableHasNullBeforeDigit letters
      decidable_of_iff' _ hasNullBeforeDigit_cons

theorem isPrintable_of_isDigit {letter : Char} (digit : letter.isDigit) : isPrintable letter := by
  obtain ⟨lowest, highest⟩ : 48 ≤ letter.toNat ∧ letter.toNat ≤ 57 := by
    simpa [Char.isDigit, UInt32.le_iff_toNat_le] using digit
  rw [isPrintable, if_pos (by omega), decide_eq_true_iff]
  omega

theorem startsWithDigit_escape (letter : Char) (rest : List Char) :
    startsWithDigit (Quoted.escape letter ++ rest) = letter.isDigit := by
  unfold Quoted.escape
  split
  case h_7 =>
    split
    case isTrue => rfl
    case isFalse unprintable =>
      exact (Bool.eq_false_iff.mpr (unprintable ∘ isPrintable_of_isDigit)).symm
  all_goals rfl

theorem startsWithDigit_flatMap_escape (letters rest : List Char) :
    startsWithDigit (letters.flatMap Quoted.escape ++ '"' :: rest) = startsWithDigit letters := by
  cases letters with
  | nil => rfl
  | cons letter letters =>
      rw [List.flatMap_cons, List.append_assoc, startsWithDigit_escape]
      rfl

theorem body?_of_not_hasNullBeforeDigit {letters : List Char}
    (apart : ¬ HasNullBeforeDigit letters) (rest : List Char) :
    body? (letters.flatMap Quoted.escape ++ '"' :: rest) = some (utf16 letters, rest) := by
  induction letters with
  | nil =>
      rw [List.flatMap_nil, List.nil_append, body?]
      rfl
  | cons letter letters induction =>
      rw [hasNullBeforeDigit_cons, not_or, not_and, Bool.not_eq_true] at apart
      rw [List.flatMap_cons, List.append_assoc, body?_escape, induction apart.2]
      · rfl
      · rw [startsWithDigit_flatMap_escape]
        exact apart.1

theorem body?_of_hasNullBeforeDigit {letters : List Char} (null : HasNullBeforeDigit letters)
    (rest : List Char) :
    body? (letters.flatMap Quoted.escape ++ '"' :: rest) = none := by
  induction letters with
  | nil => cases not_hasNullBeforeDigit_nil null
  | cons letter letters induction =>
      rw [List.flatMap_cons, List.append_assoc]
      by_cases here : letter = '\x00' ∧ startsWithDigit letters
      · obtain ⟨rfl, digit⟩ := here
        refine body?_of_escape?_eq_none ?_
        rw [List.append_eq, List.singleton_append, escape?, startsWithDigit_flatMap_escape, digit,
          if_pos rfl]
      · have later := (hasNullBeforeDigit_cons.mp null).resolve_left here
        rw [not_and, Bool.not_eq_true] at here
        rw [body?_escape, induction later, Option.map_none]
        rw [startsWithDigit_flatMap_escape]
        exact here

/-- How a text is written as a literal: quoted, or as the key of a member whose name is quoted. -/
inductive Writes (text : String) : String → Prop where
  | quote : Writes text (quote text)
  | propertyKey (quoted : Name.isIdentifier text = false) : Writes text (Name.propertyKey text)

theorem Writes.eq_quote {text literal : String} (writes : Writes text literal) :
    literal = Text.quote text := by
  cases writes with
  | quote => rfl
  | propertyKey quoted => rw [Name.propertyKey, quoted, if_neg Bool.false_ne_true]

/-- A literal that a text is written as denotes the text and ends at its own closing quote exactly
if no null character stands directly before a decimal digit in the text; otherwise it is
malformed. -/
theorem literal_denotes_text_iff {text literal : String} (writes : Writes text literal)
    (rest : List Char) :
    (read? (literal.toList ++ rest) = some (utf16 text.toList, rest) ↔
        ¬ HasNullBeforeDigit text.toList) ∧
      (read? (literal.toList ++ rest) = none ↔ HasNullBeforeDigit text.toList) := by
  have body : read? (literal.toList ++ rest) =
      body? (text.toList.flatMap Quoted.escape ++ '"' :: rest) := by
    rw [writes.eq_quote, quote, String.toList_ofList, Quoted.encode, List.cons_append,
      List.cons_append, List.append_assoc, List.singleton_append, read?]
  rw [body]
  by_cases null : HasNullBeforeDigit text.toList
  · rw [body?_of_hasNullBeforeDigit null]
    simp [null]
  · rw [body?_of_not_hasNullBeforeDigit null]
    simp [null]

/-- The key of a member whose name holds a null character before a hyphen and a character beyond the
basic plane. -/
theorem literal_denotes_text_iff_nullHyphen :
    Name.isIdentifier "a\x00-😀" = false ∧
      read? ((Name.propertyKey "a\x00-😀").toList ++ [':', ' ']) =
        some ([0x61, 0, 0x2D, 0xD83D, 0xDE00], [':', ' ']) := by
  have quoted : Name.isIdentifier "a\x00-😀" = false := by decide
  have units : utf16 "a\x00-😀".toList = [0x61, 0, 0x2D, 0xD83D, 0xDE00] := by decide
  have apart : ¬ HasNullBeforeDigit "a\x00-😀".toList := by decide
  refine ⟨quoted, ?_⟩
  rw [← units]
  exact (literal_denotes_text_iff (.propertyKey quoted) [':', ' ']).1.mpr apart

/-- The name of a null character and the digit one is written as the key `"\01"`, which is an octal
escape and thus malformed. -/
theorem propertyKey_malformed_nullOne :
    Name.propertyKey "\x001" = "\"\\01\"" ∧ quote "\x001" = "\"\\01\"" ∧
      read? (Name.propertyKey "\x001").toList = none ∧ read? (quote "\x001").toList = none := by
  have written : quote "\x001" = "\"\\01\"" := by decide
  have malformed : read? "\"\\01\"".toList = none := body?_of_escape?_eq_none rfl
  have key : Name.propertyKey "\x001" = quote "\x001" := by decide
  exact ⟨key.trans written, written, key ▸ written ▸ malformed, written ▸ malformed⟩

end StringLiteral
end Text
end ForeignBindings
