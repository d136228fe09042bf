import ForeignBindings.Json.Reader
import ForeignBindings.Proofs.Checks
import Mathlib.Data.List.Forall2

/-!
# The loops of the reader

What one round of a loop over an array or an object does, and loops in step: if the reader of an
element reads whatever another reader reads, up to the same place, then so does a loop over it.
-/

namespace ForeignBindings
namespace Json

open Checks

section Inversion

variable {α σ : Type} {item : Input → Except Fault (α × Input)} {steps : Nat} {input rest : Input}

/-- Whether an item of an array can start at an input. -/
def startsItem (input : Input) : Bool :=
  match input with
  | [] | some ']' :: _ => false
  | _ => true

theorem startsItem_of_ne {input : Input} (notEmpty : input = [] → False)
    (notEnd : ∀ after, input = some ']' :: after → False) : startsItem input = true := by
  unfold startsItem
  split
  · exact (notEmpty rfl).elim
  · exact (notEnd _ rfl).elim
  · rfl

/-- Reads what follows an item of an array. -/
def readMore (item : Input → Except Fault (α × Input)) (steps : Nat) (input : Input) :
    Except Fault (List α × Input) :=
  match skipBlank input with
  | [] => .error .endInList
  | some ']' :: after => .ok ([], after)
  | some ',' :: after =>
      match skipBlank after with
      | [] => .error .endInValue
      | some ']' :: _ => .error .trailingComma
      | next => readItems item steps next
  | _ => .error .expectedListEnd

theorem readItems_succ :
    readItems item (steps + 1) input = (do
      let (value, rest) ← item input
      let (values, final) ← readMore item steps rest
      return (value :: values, final)) := by
  rw [readItems]
  cases item input with
  | error fault => rfl
  | ok result =>
    obtain ⟨value, rest⟩ := result
    simp only [bind, Except.bind, readMore]
    split
    case h_3 => split <;> simp only [*] <;> rfl
    all_goals simp only [*] <;> rfl

theorem readItems_eq_ok_iff {values : List α} :
    readItems item (steps + 1) input = .ok (values, rest) ↔
      ∃ value after others, item input = .ok (value, after) ∧
        readMore item steps after = .ok (others, rest) ∧ values = value :: others := by
  simp only [readItems_succ, bind_eq_ok_iff, Prod.exists]
  constructor
  · rintro ⟨value, after, read, others, final, more, finished⟩
    cases finished
    exact ⟨value, after, others, read, more, rfl⟩
  · rintro ⟨value, after, others, read, more, rfl⟩
    exact ⟨value, after, read, others, rest, more, rfl⟩

theorem readMore_eq_ok_iff {values : List α} :
    readMore item steps input = .ok (values, rest) ↔
      (skipBlank input = some ']' :: rest ∧ values = []) ∨
        ∃ after, skipBlank input = some ',' :: after ∧ startsItem (skipBlank after) ∧
          readItems item steps (skipBlank after) = .ok (values, rest) := by
  rw [readMore]
  split
  next ended => simp [ended]
  next after ended => grind
  next after comma =>
    split
    next ended => simp [comma, ended, startsItem]
    next ended => simp [comma, ended, startsItem]
    next notEmpty notEnd =>
      have starts : startsItem (skipBlank after) := by
        unfold startsItem
        split <;> simp_all
      simp [comma, starts]
  next => simp_all

theorem readArray_eq_ok_iff {values : List α} :
    readArray item steps input = .ok (values, rest) ↔
      (skipBlank input = some ']' :: rest ∧ values = []) ∨
        (startsItem (skipBlank input) ∧
          readItems item steps (skipBlank input) = .ok (values, rest)) := by
  rw [readArray]
  split
  next ended => simp [ended, startsItem]
  next after ended => grind [startsItem]
  next notEmpty notEnd =>
    have starts : startsItem (skipBlank input) := by
      unfold startsItem
      split <;> simp_all
    grind

variable {entry : σ → String → Input → Except Fault (σ × Input)} {state final : σ}

theorem readEntries_eq_ok_iff :
    readEntries entry (steps + 1) state input = .ok (final, rest) ↔
      ∃ key behind next after,
        readString input = .ok (key, behind) ∧ entry state key behind = .ok (next, after) ∧
          ((skipBlank after = some '\x7d' :: rest ∧ next = final) ∨
            ∃ more tail, skipBlank after = some ',' :: more ∧ skipBlank more = some '"' :: tail ∧
              readEntries entry steps next tail = .ok (final, rest)) := by
  rw [readEntries]
  simp only [bind_eq_ok_iff, Prod.exists]
  refine exists₂_congr fun key behind => ?_
  constructor
  · rintro ⟨read, next, after, entered, continued⟩
    refine ⟨next, after, read, entered, ?_⟩
    split at continued
    · cases continued
    · cases continued
      exact .inl ⟨‹_›, rfl⟩
    · split at continued
      · cases continued
      · exact .inr ⟨_, _, ‹_›, ‹_›, continued⟩
      · cases continued
      · cases continued
    · cases continued
  · rintro ⟨next, after, read, entered, ⟨ended, rfl⟩ | ⟨more, tail, comma, quote, continued⟩⟩
    · refine ⟨read, next, after, entered, ?_⟩
      simp only [ended]
      rfl
    · refine ⟨read, next, after, entered, ?_⟩
      simp only [comma, quote]
      exact continued

theorem readObject_eq_ok_iff :
    readObject entry steps state input = .ok (final, rest) ↔
      (skipBlank input = some '\x7d' :: rest ∧ state = final) ∨
        ∃ next, skipBlank input = some '"' :: next ∧
          readEntries entry steps state next = .ok (final, rest) := by
  rw [readObject]
  split
  next ended => simp [ended]
  next after ended => grind
  next next quote => simp [quote]
  next => simp_all

end Inversion

section Following

variable {α β σ τ : Type} {good : α → Prop} {related : α → β → Prop}

/-- Whether a reader reads whatever another reader reads as a good value, up to the same place and
as a related value. -/
def Follows (leader : Input → Except Fault (α × Input))
    (follower : Input → Except Fault (β × Input)) (good : α → Prop) (related : α → β → Prop) :
    Prop :=
  ∀ ⦃input value rest⦄, leader input = .ok (value, rest) → good value →
    ∃ other, follower input = .ok (other, rest) ∧ related value other

variable {leader : Input → Except Fault (α × Input)} {follower : Input → Except Fault (β × Input)}
  {steps bound : Nat} {input rest : Input} {values : List α}

theorem Follows.readItems (follows : Follows leader follower good related)
    (enough : steps ≤ bound) (run : readItems leader steps input = .ok (values, rest))
    (each : ∀ value ∈ values, good value) :
    ∃ others, readItems follower bound input = .ok (others, rest) ∧
      List.Forall₂ related values others := by
  induction steps generalizing bound input values with
  | zero => cases run
  | succ steps induction =>
      obtain ⟨bound, rfl⟩ := Nat.exists_eq_add_one_of_ne_zero (Nat.ne_zero_of_lt enough)
      obtain ⟨value, after, more, read, continued, rfl⟩ := readItems_eq_ok_iff.mp run
      obtain ⟨first, others_good⟩ := List.forall_mem_cons.mp each
      obtain ⟨other, followed, value_related⟩ := follows read first
      rcases readMore_eq_ok_iff.mp continued with ⟨ended, rfl⟩ | ⟨behind, comma, starts, continued⟩
      · have stopped : readMore follower bound after = .ok ([], rest) :=
          readMore_eq_ok_iff.mpr (.inl ⟨ended, rfl⟩)
        exact ⟨[other], readItems_eq_ok_iff.mpr ⟨other, after, [], followed, stopped, rfl⟩,
          .cons value_related .nil⟩
      · obtain ⟨others, others_read, others_related⟩ :=
          induction (Nat.le_of_succ_le_succ enough) continued others_good
        have proceeds : readMore follower bound after = .ok (others, rest) :=
          readMore_eq_ok_iff.mpr (.inr ⟨behind, comma, starts, others_read⟩)
        exact ⟨other :: others,
          readItems_eq_ok_iff.mpr ⟨other, after, others, followed, proceeds, rfl⟩,
          .cons value_related others_related⟩

theorem Follows.readArray (follows : Follows leader follower good related)
    (enough : steps ≤ bound) (run : readArray leader steps input = .ok (values, rest))
    (each : ∀ value ∈ values, good value) :
    ∃ others, readArray follower bound input = .ok (others, rest) ∧
      List.Forall₂ related values others := by
  rcases readArray_eq_ok_iff.mp run with ⟨ended, rfl⟩ | ⟨starts, items⟩
  · exact ⟨[], readArray_eq_ok_iff.mpr (.inl ⟨ended, rfl⟩), .nil⟩
  · obtain ⟨others, others_read, others_related⟩ := follows.readItems enough items each
    exact ⟨others, readArray_eq_ok_iff.mpr (.inr ⟨starts, others_read⟩), others_related⟩

/-- Whether a reader of entries reads whatever another one reads, up to the same place and into
related states, as long as the state stays good; a state that becomes good was good before. -/
def FollowsEntries (leader : σ → String → Input → Except Fault (σ × Input))
    (follower : τ → String → Input → Except Fault (τ × Input)) (good : σ → Prop)
    (related : σ → τ → Prop) : Prop :=
  ∀ ⦃state key input next rest⦄, leader state key input = .ok (next, rest) → good next →
    good state ∧ ∀ other, related state other →
      ∃ otherNext, follower other key input = .ok (otherNext, rest) ∧ related next otherNext

variable {entryLeader : σ → String → Input → Except Fault (σ × Input)}
  {entryFollower : τ → String → Input → Except Fault (τ × Input)} {goodState : σ → Prop}
  {relatedStates : σ → τ → Prop} {state final : σ}

theorem FollowsEntries.readEntries
    (follows : FollowsEntries entryLeader entryFollower goodState relatedStates)
    (enough : steps ≤ bound) (run : readEntries entryLeader steps state input = .ok (final, rest))
    (goodFinal : goodState final) :
    goodState state ∧ ∀ other, relatedStates state other →
      ∃ otherFinal, readEntries entryFollower bound other input = .ok (otherFinal, rest) ∧
        relatedStates final otherFinal := by
  induction steps generalizing bound input state with
  | zero => cases run
  | succ steps induction =>
      obtain ⟨bound, rfl⟩ := Nat.exists_eq_add_one_of_ne_zero (Nat.ne_zero_of_lt enough)
      obtain ⟨key, behind, next, after, name, entered, continued⟩ := readEntries_eq_ok_iff.mp run
      rcases continued with ⟨ended, rfl⟩ | ⟨more, tail, comma, quote, continued⟩
      · obtain ⟨goodBefore, step⟩ := follows entered goodFinal
        refine ⟨goodBefore, fun other together => ?_⟩
        obtain ⟨otherNext, followed, next_related⟩ := step other together
        exact ⟨otherNext, readEntries_eq_ok_iff.mpr
          ⟨key, behind, otherNext, after, name, followed, .inl ⟨ended, rfl⟩⟩, next_related⟩
      · obtain ⟨goodNext, rest_follows⟩ := induction (Nat.le_of_succ_le_succ enough) continued
        obtain ⟨goodBefore, step⟩ := follows entered goodNext
        refine ⟨goodBefore, fun other together => ?_⟩
        obtain ⟨otherNext, followed, next_related⟩ := step other together
        obtain ⟨otherFinal, rest_read, final_related⟩ := rest_follows otherNext next_related
        exact ⟨otherFinal, readEntries_eq_ok_iff.mpr ⟨key, behind, otherNext, after, name, followed,
          .inr ⟨more, tail, comma, quote, rest_read⟩⟩, final_related⟩

theorem FollowsEntries.readObject
    (follows : FollowsEntries entryLeader entryFollower goodState relatedStates)
    (enough : steps ≤ bound) (run : readObject entryLeader steps state input = .ok (final, rest))
    (goodFinal : goodState final) {other : τ} (together : relatedStates state other) :
    ∃ otherFinal, readObject entryFollower bound other input = .ok (otherFinal, rest) ∧
      relatedStates final otherFinal := by
  rcases readObject_eq_ok_iff.mp run with ⟨ended, rfl⟩ | ⟨next, quote, entries⟩
  · exact ⟨other, readObject_eq_ok_iff.mpr (.inl ⟨ended, rfl⟩), together⟩
  · obtain ⟨otherFinal, entries_read, final_related⟩ :=
      (follows.readEntries enough entries goodFinal).2 other together
    exact ⟨otherFinal, readObject_eq_ok_iff.mpr (.inr ⟨next, quote, entries_read⟩), final_related⟩

theorem readMember_eq_ok_iff {members next : List (String × α)} {key : String} :
    readMember leader members key input = .ok (next, rest) ↔
      ∃ after value, expectColon input = .ok after ∧ leader after = .ok (value, rest) ∧
        next = (key, value) :: members := by
  simp only [readMember, bind_eq_ok_iff, Prod.exists]
  constructor
  · rintro ⟨after, colon, value, final, read, finished⟩
    cases finished
    exact ⟨after, value, colon, read, rfl⟩
  · rintro ⟨after, value, colon, read, rfl⟩
    exact ⟨after, colon, value, rest, read, rfl⟩

theorem Follows.readMember (follows : Follows leader follower good related) :
    FollowsEntries (readMember leader) (readMember follower)
      (fun members => ∀ member ∈ members, good member.2)
      (List.Forall₂ fun member other => member.1 = other.1 ∧ related member.2 other.2) := by
  intro members key input next rest run goodNext
  obtain ⟨after, value, colon, read, rfl⟩ := readMember_eq_ok_iff.mp run
  obtain ⟨goodValue, goodMembers⟩ := List.forall_mem_cons.mp goodNext
  refine ⟨goodMembers, fun others together => ?_⟩
  obtain ⟨other, followed, value_related⟩ := follows read goodValue
  exact ⟨(key, other) :: others, readMember_eq_ok_iff.mpr ⟨after, other, colon, followed, rfl⟩,
    .cons ⟨rfl, value_related⟩ together⟩

end Following

end Json
end ForeignBindings
