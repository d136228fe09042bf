import ForeignBindings.Name
import Mathlib

/-!
# Pascal case

Bringing a name into Pascal case drops its separators, writes the characters that start a word in
upper case and keeps all others.  The names that have no separator and do not start with a lower-case
letter are its normal forms: it makes every name one of them and leaves them as they are.
-/

namespace ForeignBindings
namespace Name

/-- The characters that separate the words of a name. -/
def separators : List Char := ['_', '-', '.']

/-- Whether a name is a normal form of Pascal case. -/
structure IsPascalNormal (name : String) : Prop where
  /-- It has no separator. -/
  joined : ∀ separator ∈ separators, separator ∉ name.toList
  /-- It does not start with a lower-case letter. -/
  capital : ∀ first ∈ name.toList.head?, first.isLower = false

/-- Whether the character at a place of a text starts a word: it begins the text or directly follows
a separator. -/
def StartsWord (letters : List Char) (place : Nat) : Prop :=
  place = 0 ∨ ∃ before ∈ letters[place - 1]?, before ∈ separators

instance (letters : List Char) (place : Nat) : Decidable (StartsWord letters place) :=
  inferInstanceAs (Decidable (_ ∨ _))

/-- The characters of a text that are no separators, each with its place in the text. -/
def wordLetters (letters : List Char) : List (Char × Nat) :=
  letters.zipIdx.filter fun entry => entry.1 ∉ separators

/-- A character at a place of a text as Pascal case writes it: in upper case if it starts a word. -/
def capitalized (letters : List Char) (entry : Char × Nat) : Char :=
  if StartsWord letters entry.2 then entry.1.toUpper else entry.1

theorem isSeparator_iff {letter : Char} : isSeparator letter = true ↔ letter ∈ separators := by
  simp [isSeparator, separators, or_assoc]

theorem toUpper_not_mem_separators {letter : Char} (other : letter ∉ separators) :
    letter.toUpper ∉ separators := by
  intro separates
  have apart : ∀ separator ∈ separators, separator.isAlpha = false := by simp [separators]
  have plain : letter.isAlpha = false := by
    rw [← Char.isAlpha_toUpper_eq_isAlpha]
    exact apart _ separates
  have kept : letter.toUpper = letter :=
    Char.toUpper_eq_of_not_isLower fun lower => by simp [Char.isAlpha, lower] at plain
  exact other (kept ▸ separates)

/-- A character behind another starts a word exactly if that one separates. -/
theorem startsWord_succ (before : List Char) (letter : Char) (rest : List Char) :
    StartsWord (before ++ letter :: rest) (before.length + 1) ↔ letter ∈ separators := by
  simp [StartsWord]

/-- Joining the rest of a text writes its words, if it begins with a capital exactly where a word
starts. -/
theorem joinWords_eq {pending : Bool} (before rest : List Char)
    (due : pending = true ↔ StartsWord (before ++ rest) before.length) :
    joinWords pending rest =
      ((rest.zipIdx before.length).filter fun entry => entry.1 ∉ separators).map
        (capitalized (before ++ rest)) := by
  induction rest generalizing pending before with
  | nil => rfl
  | cons letter rest induction =>
      -- What is due behind the letter is said of the same text, split one character later.
      have behind {next : Bool} (after : next = true ↔ letter ∈ separators) :
          joinWords next rest =
            ((rest.zipIdx (before.length + 1)).filter fun entry => entry.1 ∉ separators).map
              (capitalized (before ++ letter :: rest)) := by
        have split : before ++ letter :: rest = (before ++ [letter]) ++ rest := by simp
        have length : before.length + 1 = (before ++ [letter]).length := by simp
        rw [← startsWord_succ before letter rest, split, length] at after
        rw [split, length]
        exact induction (before ++ [letter]) after
      rw [joinWords, List.zipIdx_cons]
      by_cases separates : letter ∈ separators
      · rw [if_pos (isSeparator_iff.mpr separates),
          List.filter_cons_of_neg (by simpa using separates), behind (iff_of_true rfl separates)]
      · have written : (if pending then letter.toUpper else letter) =
            capitalized (before ++ letter :: rest) (letter, before.length) := by
          simp only [capitalized, ← due]
        rw [if_neg (isSeparator_iff.not.mpr separates),
          List.filter_cons_of_pos (by simpa using separates), List.map_cons, written,
          behind (iff_of_false Bool.false_ne_true separates)]

theorem isLower_head_joinWords (letters : List Char) :
    ∀ first ∈ (joinWords true letters).head?, first.isLower = false := by
  induction letters with
  | nil => nofun
  | cons letter rest induction =>
      rw [joinWords]
      split
      · exact induction
      · rintro _ ⟨⟩
        exact Char.isLower_toUpper_eq_false letter

theorem joinWords_of_joined {letters : List Char}
    (joined : ∀ letter ∈ letters, letter ∉ separators) : joinWords false letters = letters := by
  induction letters with
  | nil => rfl
  | cons letter rest induction =>
      obtain ⟨other, joined⟩ := List.forall_mem_cons.mp joined
      rw [joinWords, if_neg (isSeparator_iff.not.mpr other), induction joined]
      rfl

theorem joinWords_of_isPascalNormal {name : String} (normal : IsPascalNormal name) :
    joinWords true name.toList = name.toList := by
  have joined : ∀ letter ∈ name.toList, letter ∉ separators :=
    fun letter inside separates => normal.joined letter separates inside
  have capital := normal.capital
  cases spelled : name.toList with
  | nil => rfl
  | cons first rest =>
      rw [spelled] at joined capital
      obtain ⟨other, joined⟩ := List.forall_mem_cons.mp joined
      have kept : first.toUpper = first :=
        Char.toUpper_eq_of_not_isLower (by simp [capital first rfl])
      rw [joinWords, if_neg (isSeparator_iff.not.mpr other), joinWords_of_joined joined, if_pos rfl,
        kept]

theorem isPascalNormal_of_isPascalCase {name : String} (already : isPascalCase name.toList = true) :
    IsPascalNormal name := by
  cases spelled : name.toList with
  | nil => simp [spelled, isPascalCase] at already
  | cons first rest =>
      rw [spelled] at already
      obtain ⟨upper, joined⟩ := Bool.and_eq_true_iff.mp already
      constructor
      · intro separator separates inside
        rw [spelled] at inside
        have held := List.any_eq_true.mpr ⟨separator, inside, isSeparator_iff.mpr separates⟩
        simp [held] at joined
      · rw [spelled]
        rintro _ ⟨⟩
        exact Bool.eq_false_iff.mpr (Char.not_isLower_of_isUpper upper)

/-- A name that is kept as it is would be joined to itself. -/
theorem toList_pascalCase (name : String) :
    (pascalCase name).toList = joinWords true name.toList := by
  rw [pascalCase]
  split
  case isTrue already =>
    exact (joinWords_of_isPascalNormal (isPascalNormal_of_isPascalCase already)).symm
  case isFalse => exact String.toList_ofList

/-- Pascal case writes the characters that are no separators in order, those that start a word in
upper case and all others as they are. -/
theorem toList_pascalCase_eq_map (name : String) :
    (pascalCase name).toList = (wordLetters name.toList).map (capitalized name.toList) := by
  rw [toList_pascalCase]
  exact joinWords_eq [] name.toList (by simp [StartsWord])

theorem isPascalNormal_pascalCase (name : String) : IsPascalNormal (pascalCase name) := by
  constructor
  · intro separator separates inside
    rw [toList_pascalCase_eq_map] at inside
    obtain ⟨⟨letter, place⟩, kept, rfl⟩ := List.mem_map.mp inside
    have other : letter ∉ separators := by simpa using (List.mem_filter.mp kept).2
    rw [capitalized] at separates
    split at separates
    · exact toUpper_not_mem_separators other separates
    · exact other separates
  · rw [toList_pascalCase]
    exact isLower_head_joinWords name.toList

theorem pascalCase_eq_self_iff {name : String} : pascalCase name = name ↔ IsPascalNormal name := by
  constructor
  · intro same
    exact same ▸ isPascalNormal_pascalCase name
  · intro normal
    rw [← String.toList_inj, toList_pascalCase]
    exact joinWords_of_isPascalNormal normal

/-- Pascal case is a normal form: what it makes of a name has no separator and does not start with a
lower-case letter, it is the name without its separators and with the characters in upper case that
began it or directly followed a separator, and making it again changes nothing.  The names that are
their own Pascal case are exactly those without separators and without a lower-case start. -/
theorem pascalCase_is_normal_form (name : String) :
    IsPascalNormal (pascalCase name) ∧
      (pascalCase name).toList = (wordLetters name.toList).map (capitalized name.toList) ∧
      pascalCase (pascalCase name) = pascalCase name ∧
      (pascalCase name = name ↔ IsPascalNormal name) :=
  ⟨isPascalNormal_pascalCase name, toList_pascalCase_eq_map name,
    pascalCase_eq_self_iff.mpr (isPascalNormal_pascalCase name), pascalCase_eq_self_iff⟩

/-- Separators at both ends and in runs are dropped, and a letter beyond ASCII keeps its case. -/
example : pascalCase "__key--down.éa_.1st." = "KeyDownéa1st" := by decide

end Name
end ForeignBindings
