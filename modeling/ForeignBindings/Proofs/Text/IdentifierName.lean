import ForeignBindings.Name
import Mathlib.Data.List.Basic

/-!
# Names of identifiers

The names of identifiers by the grammar of the emitted language, without escapes.  Which characters
beyond ASCII may stand in them is left open.  Every name that is printed without quotes is one of
them.
-/

namespace ForeignBindings
namespace Text

/-- The Unicode properties `ID_Start` and `ID_Continue` of the characters beyond ASCII. -/
structure WideLetters where
  /-- Whether a character has the property `ID_Start`. -/
  starts : Char → Bool
  /-- Whether a character has the property `ID_Continue`. -/
  continues : Char → Bool

namespace WideLetters

/-- Whether an identifier may start with a character. -/
def opens (wide : WideLetters) (letter : Char) : Bool :=
  letter == '$' || letter == '_' ||
    if letter.toNat < 128 then letter.isAlpha else wide.starts letter

/-- Whether a character may follow in an identifier; the last two join or keep apart what stands
around them. -/
def follows (wide : WideLetters) (letter : Char) : Bool :=
  letter == '$' || letter == '_' || letter == '\u200c' || letter == '\u200d' ||
    if letter.toNat < 128 then letter.isAlphanum else wide.continues letter

end WideLetters

/-- Whether a text is the name of an identifier, without escapes. -/
def IsIdentifierName (wide : WideLetters) (name : String) : Prop :=
  ∃ first rest, name.toList = first :: rest ∧ wide.opens first = true ∧
    ∀ letter ∈ rest, wide.follows letter = true

section Stops

variable {kind : Char → Bool} {letters rest : List Char}

theorem takeWhile_append_of_stops (all : ∀ letter ∈ letters, kind letter)
    (stops : ∀ letter ∈ rest.head?, kind letter = false) :
    (letters ++ rest).takeWhile kind = letters := by
  rw [List.takeWhile_append_of_pos all]
  cases rest with
  | nil => exact List.append_nil _
  | cons letter rest =>
      rw [List.takeWhile_cons, stops letter rfl, if_neg Bool.false_ne_true, List.append_nil]

theorem dropWhile_append_of_stops (all : ∀ letter ∈ letters, kind letter)
    (stops : ∀ letter ∈ rest.head?, kind letter = false) :
    (letters ++ rest).dropWhile kind = rest := by
  rw [List.dropWhile_append_of_pos all]
  cases rest with
  | nil => rfl
  | cons letter rest => rw [List.dropWhile_cons, stops letter rfl, if_neg Bool.false_ne_true]

end Stops

theorem toNat_lt_of_isAlphanum {letter : Char} (plain : letter.isAlphanum = true) :
    letter.toNat < 128 := by
  have narrow {last : Char} (upTo : letter ≤ last) (ascii : last.toNat < 128) :
      letter.toNat < 128 := Nat.lt_of_le_of_lt (UInt32.le_iff_toNat_le.mp upTo) ascii
  obtain alpha | digit := Bool.or_eq_true_iff.mp plain
  · obtain upper | lower := Bool.or_eq_true_iff.mp alpha
    · exact narrow (of_decide_eq_true upper).2 (by decide : 'Z'.toNat < 128)
    · exact narrow (of_decide_eq_true (Bool.and_eq_true_iff.mp lower).2)
        (by decide : 'z'.toNat < 128)
  · exact narrow (of_decide_eq_true (Bool.and_eq_true_iff.mp digit).2)
      (by decide : '9'.toNat < 128)

theorem opens_of_isIdentifierStart {letter : Char} (start : Name.isIdentifierStart letter = true)
    (wide : WideLetters) : wide.opens letter = true := by
  simp only [Name.isIdentifierStart, Bool.or_eq_true] at start
  simp only [WideLetters.opens, Bool.or_eq_true]
  obtain (alpha | underscore) | dollar := start
  · have narrow := toNat_lt_of_isAlphanum (by rw [Char.isAlphanum, alpha, Bool.true_or])
    exact .inr (by rw [if_pos narrow, alpha])
  · exact .inl (.inr underscore)
  · exact .inl (.inl dollar)

theorem follows_of_isIdentifierPart {letter : Char} (part : Name.isIdentifierPart letter = true)
    (wide : WideLetters) : wide.follows letter = true := by
  simp only [Name.isIdentifierPart, Bool.or_eq_true] at part
  simp only [WideLetters.follows, Bool.or_eq_true]
  obtain (plain | underscore) | dollar := part
  · exact .inr (by rw [if_pos (toNat_lt_of_isAlphanum plain), plain])
  · exact .inl (.inl (.inl (.inr underscore)))
  · exact .inl (.inl (.inl (.inl dollar)))

/-- A plain identifier names an identifier, whatever holds of the characters beyond ASCII. -/
theorem isIdentifierName_of_isIdentifier {name : String} (identifier : Name.isIdentifier name)
    (wide : WideLetters) : IsIdentifierName wide name := by
  rw [Name.isIdentifier] at identifier
  split at identifier
  case h_1 => cases identifier
  case h_2 first rest spelled =>
    obtain ⟨start, parts⟩ := Bool.and_eq_true_iff.mp identifier
    refine ⟨first, rest, spelled, opens_of_isIdentifierStart start wide, fun letter inside => ?_⟩
    exact follows_of_isIdentifierPart (List.all_eq_true.mp parts letter inside) wide

end Text
end ForeignBindings
