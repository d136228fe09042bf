import ForeignBindings.CommandLine.Reading
import ForeignBindings.Proofs.Checks
import Mathlib.Data.List.Basic

/-!
# Settings that words mention

A reading mentions a setting if its value is stored or held back.  A word that is read adds the
settings that it spells and takes none away, so the settings that are given in the end can be told
from the texts of the words.
-/

namespace ForeignBindings
namespace CommandLine
namespace Reading

open Checks

variable {grammar : Grammar} {reading between next : Reading} {setting sought : Setting}
  {value : String} {found more : Bool}

/-- Whether the value of a setting is stored or held back. -/
def mentions (reading : Reading) (sought : Setting) : Bool :=
  reading.has sought || reading.pending.any fun held => sought == held.1

/-- What a step does to the mention of a setting: it is there behind the step if it was there before,
or the step has found it.  Words that no option takes stay refused. -/
structure Adds (sought : Setting) (found : Bool) (reading next : Reading) : Prop where
  mentions : next.mentions sought = (reading.mentions sought || found)
  positional : next.positional = reading.positional

namespace Adds

theorem refl (sought : Setting) (reading : Reading) : Adds sought false reading reading :=
  ⟨(Bool.or_false _).symm, rfl⟩

theorem trans (first : Adds sought found reading between) (second : Adds sought more between next) :
    Adds sought (found || more) reading next where
  mentions := by rw [second.mentions, first.mentions, Bool.or_assoc]
  positional := second.positional.trans first.positional

end Adds

theorem has_append (reading : Reading) (setting : Setting) (value : String) :
    { reading with given := reading.given ++ [(setting, value)] }.has sought =
      (reading.has sought || sought == setting) := by
  unfold has value?
  rw [List.lookup_append, List.lookup_cons, List.lookup_nil, Option.isSome_or]
  cases sought == setting <;> rfl

theorem adds_of_store (sought : Setting) (stored : reading.store setting value = .ok next) :
    Adds sought (sought == setting) reading next ∧ next.pending = reading.pending := by
  rw [store] at stored
  split at stored
  case isTrue => cases stored
  case isFalse =>
    split at stored
    case isFalse => cases stored
    case isTrue =>
      cases stored
      refine ⟨⟨?_, rfl⟩, rfl⟩
      rw [mentions, mentions, has_append, Bool.or_right_comm]

/-- A step that settles stores what was held back. -/
theorem adds_of_settle (sought : Setting) (settled : reading.settle = .ok next) :
    Adds sought false reading next ∧ next.pending = none := by
  rw [settle] at settled
  split at settled
  case h_1 nothing =>
    cases settled
    exact ⟨.refl sought reading, nothing⟩
  case h_2 => cases settled
  case h_3 setting value held =>
    obtain ⟨stored, pending⟩ := adds_of_store sought settled
    refine ⟨⟨?_, stored.positional⟩, pending⟩
    have before : { reading with pending := none }.mentions sought = reading.has sought :=
      Bool.or_false _
    rw [stored.mentions, before, Bool.or_false, mentions, held, Option.any_some]

theorem adds_of_take (other : sought ≠ .verbose) (taken : reading.take setting value = .ok next) :
    Adds sought (sought == setting) reading next := by
  obtain ⟨settled, stands, taken⟩ := bind_eq_ok_iff.mp taken
  have before := (adds_of_settle sought stands).1
  split at taken
  case h_1 => cases taken
  case h_2 =>
    cases taken
    rw [beq_false_of_ne other]
    exact ⟨before.mentions, before.positional⟩
  case h_3 => exact before.trans (adds_of_store sought taken).1

theorem adds_of_hold {held : Option String} (holds : reading.hold setting held = .ok next) :
    Adds sought (sought == setting) reading next := by
  obtain ⟨settled, stands, holds⟩ := bind_eq_ok_iff.mp holds
  obtain ⟨before, nothing⟩ := adds_of_settle sought stands
  cases holds
  refine ⟨?_, before.positional⟩
  rw [← Bool.or_false (reading.mentions sought), ← before.mentions, mentions, mentions, nothing,
    Option.any_none, Bool.or_false]
  rfl

theorem mem_of_lookup_eq_some {α β : Type} [BEq α] [LawfulBEq α] {entries : List (α × β)} {key : α}
    {value : β} (known : entries.lookup key = some value) : (key, value) ∈ entries := by
  obtain ⟨before, behind, rfl, -⟩ := List.lookup_eq_some_iff.mp known
  exact List.mem_append_right before List.mem_cons_self

/-- What follows two dashes mentions the setting that its name is known for. -/
theorem adds_of_readLong (other : sought ≠ .verbose) {letters : List Char}
    (read : reading.readLong grammar letters = .ok next) :
    Adds sought (grammar.long.lookup (cutAtEquals letters).1 == some sought) reading next := by
  unfold readLong at read
  dsimp only at read
  cases known : grammar.long.lookup (cutAtEquals letters).1 with
  | none =>
      rw [known] at read
      cases read
  | some setting =>
      rw [known] at read
      have same : ((some setting : Option Setting) == some sought) = (sought == setting) := by
        rw [Bool.eq_iff_iff, beq_iff_eq, beq_iff_eq, Option.some_inj, eq_comm]
      rw [same]
      dsimp only at read
      split at read
      case h_1 | h_3 | h_4 => exact adds_of_take other read
      case h_2 => cases read
      case h_5 => exact adds_of_hold read

/-- What follows one dash mentions no setting that has no letter. -/
theorem adds_of_readShort (other : sought ≠ .verbose)
    (long : ∀ entry ∈ grammar.short, entry.2 ≠ sought) {letters : List Char}
    (read : reading.readShort grammar letters = .ok next) : Adds sought false reading next := by
  induction letters generalizing reading with
  | nil =>
      cases read
      exact .refl sought next
  | cons letter rest induction =>
      rw [readShort] at read
      cases known : grammar.short.lookup letter with
      | none =>
          rw [known] at read
          cases read
      | some setting =>
          rw [known] at read
          have apart : (sought == setting) = false :=
            beq_false_of_ne fun same => long _ (mem_of_lookup_eq_some known) same.symm
          dsimp only at read
          split at read
          case h_1 => exact apart ▸ adds_of_hold read
          case h_2 | h_3 => exact apart ▸ adds_of_take other read
          case h_4 =>
            obtain ⟨taken, first, read⟩ := bind_eq_ok_iff.mp read
            have step : Adds sought false reading taken := apart ▸ adds_of_take other first
            exact step.trans (induction read)

/-- Whether a word spells a setting by its name behind two dashes. -/
def spells (grammar : Grammar) (sought : Setting) (word : String) : Bool :=
  match word.toList with
  | '-' :: '-' :: letters => grammar.long.lookup (cutAtEquals letters).1 == some sought
  | _ => false

/-- Where no word stands for itself, a word mentions what it spells. -/
theorem adds_of_readWord (other : sought ≠ .verbose)
    (long : ∀ entry ∈ grammar.short, entry.2 ≠ sought) (bare : reading.positional = none)
    {word : String} (read : reading.readWord grammar word = .ok next) :
    Adds sought (spells grammar sought word) reading next := by
  rw [readWord] at read
  rw [spells]
  generalize word.toList = letters at read ⊢
  split at read
  case h_1 => exact adds_of_readLong other read
  case h_2 letter letters notLong =>
    split
    case h_1 same =>
      cases same
      exact absurd rfl notLong
    case h_2 => exact adds_of_readShort other long read
  case h_3 notLong notShort =>
    split
    case h_1 => exact absurd rfl (notLong _)
    case h_2 =>
      rw [readValue] at read
      split at read
      case h_1 setting waits =>
        cases read
        refine ⟨?_, rfl⟩
        rw [Bool.or_false, mentions, mentions, waits, Option.any_some, Option.any_some]
        rfl
      case h_2 =>
        rw [readPositional, bare] at read
        cases read

theorem readWords_cons {word : String} (plain : word ≠ "--") (words : List String) :
    reading.readWords grammar (word :: words) =
      reading.readWord grammar word >>= fun next => next.readWords grammar words := by
  rw [readWords]
  exact fun same => absurd same plain

theorem adds_of_readWords (other : sought ≠ .verbose)
    (long : ∀ entry ∈ grammar.short, entry.2 ≠ sought) (bare : reading.positional = none)
    {words rest : List String} (plain : "--" ∉ words)
    (read : reading.readWords grammar words = .ok (next, rest)) :
    Adds sought (words.any (spells grammar sought)) reading next ∧ rest = [] := by
  induction words generalizing reading with
  | nil =>
      cases read
      exact ⟨.refl sought next, rfl⟩
  | cons word words induction =>
      obtain ⟨first_plain, others_plain⟩ := not_or.mp (List.mem_cons.not.mp plain)
      rw [readWords_cons (Ne.symm first_plain)] at read
      obtain ⟨between, first, others⟩ := bind_eq_ok_iff.mp read
      have step := adds_of_readWord other long bare first
      obtain ⟨run, nothing⟩ := induction (step.positional.trans bare) others_plain others
      exact ⟨step.trans run, nothing⟩

theorem has_of_finish (finished : reading.finish = .ok next) :
    next.has sought = reading.mentions sought := by
  obtain ⟨settled, stands, finished⟩ := bind_eq_ok_iff.mp finished
  obtain ⟨before, nothing⟩ := adds_of_settle sought stands
  split at finished
  case isTrue => cases finished
  case isFalse =>
    cases finished
    rw [← Bool.or_false (reading.mentions sought), ← before.mentions, mentions, nothing,
      Option.any_none, Bool.or_false]

end Reading

/-- A setting is given at the end exactly if a word spells it. -/
theorem has_of_readArguments {grammar : Grammar} {sought : Setting} (other : sought ≠ .verbose)
    (long : ∀ entry ∈ grammar.short, entry.2 ≠ sought) (bare : grammar.positional = none)
    (passes : grammar.passesOn = true) {words rest : List String} (plain : "--" ∉ words)
    {reading : Reading} (read : readArguments grammar words = .ok (reading, rest)) :
    reading.has sought = words.any (Reading.spells grammar sought) ∧ rest = [] := by
  obtain ⟨⟨last, behind⟩, words_read, read⟩ := Checks.bind_eq_ok_iff.mp read
  dsimp only at read
  rw [if_pos passes] at read
  obtain ⟨settled, finished, read⟩ := Checks.bind_eq_ok_iff.mp read
  cases read
  obtain ⟨run, nothing⟩ := Reading.adds_of_readWords other long bare plain words_read
  refine ⟨?_, nothing⟩
  rw [Reading.has_of_finish finished, run.mentions]
  rfl

end CommandLine
end ForeignBindings
