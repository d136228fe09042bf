import ForeignBindings.Proofs.Json.Skipping

/-!
# Outlines

The outline of a text is the tree of its arrays, objects and scalars.  It goes as far as any reader
of the text does: a value that can be read stands in it as it is, and a value that can only be
passed over, because a string or a number in it cannot be read, stands as `null`.
-/

namespace ForeignBindings
namespace Json

open Checks

/-- What a reader of a value reads, or `null` for a value that can only be passed over. -/
def orPassedOver (steps : Nat) (input : Input) (read : Except Fault (Json × Input)) :
    Except Fault (Json × Input) :=
  match read with
  | .ok result => .ok result
  | .error _ => do return (.null, ← skipValue steps steps input)

/-- Reads a value as far as it can be read: a value within it that can only be passed over stands
as `null`. -/
def outlineValue (steps : Nat) : Nat → Input → Except Fault (Json × Input)
  | 0, input => orPassedOver steps input (readValue steps 0 input)
  | nesting + 1, input =>
      orPassedOver steps input <|
        match skipBlank input with
        | some '[' :: rest => do
            let (items, after) ← readArray (outlineValue steps nesting) steps rest
            return (.array items, after)
        | some '\x7b' :: rest => do
            let (members, after) ←
              readObject (readMember (outlineValue steps nesting)) steps [] rest
            return (.object members.reverse, after)
        | next => readScalar next

/-- The outline of a text: its document as far as it can be read. -/
def outline (input : Input) : Except Fault Json := do
  let (document, rest) ← outlineValue (input.length + maxNesting) maxNesting input
  expectEnd rest
  return document

variable {steps bound nesting : Nat} {input next rest : Input} {document : Json}

theorem readValue_zero_eq_ok_iff :
    readValue steps 0 input = .ok (document, rest) ↔
      startsNested (skipBlank input) = false ∧
        readScalar (skipBlank input) = .ok (document, rest) := by
  rw [readValue]
  split
  · simp_all [startsNested]
  · simp_all [startsNested]
  next notArray notObject =>
    have scalar : startsNested (skipBlank input) = false := by
      unfold startsNested
      split <;> simp_all
    simp [scalar]

theorem array_eq_ok_iff {reader : Input → Except Fault (Json × Input)} :
    (do
      let (items, after) ← readArray reader steps input
      return (.array items, after)) = Except.ok (document, rest) ↔
      ∃ items, document = .array items ∧ readArray reader steps input = .ok (items, rest) := by
  simp only [bind_eq_ok_iff, Prod.exists]
  constructor
  · rintro ⟨items, after, read, finished⟩
    cases finished
    exact ⟨items, rfl, read⟩
  · rintro ⟨items, rfl, read⟩
    exact ⟨items, rest, read, rfl⟩

theorem object_eq_ok_iff {reader : Input → Except Fault (Json × Input)} :
    (do
      let (members, after) ← readObject (readMember reader) steps [] input
      return (.object members.reverse, after)) = Except.ok (document, rest) ↔
      ∃ members, document = .object members ∧
        readObject (readMember reader) steps [] input = .ok (members.reverse, rest) := by
  simp only [bind_eq_ok_iff, Prod.exists]
  constructor
  · rintro ⟨members, after, read, finished⟩
    cases finished
    exact ⟨members.reverse, rfl, by rwa [List.reverse_reverse]⟩
  · rintro ⟨members, rfl, read⟩
    exact ⟨members.reverse, rest, read, by rw [List.reverse_reverse]; rfl⟩

/-- Whether a reader of nested values reads a document as an array, as an object or as a scalar. -/
inductive ReadsNested (reader : Input → Except Fault (Json × Input)) (steps : Nat) (input : Input) :
    Json → Input → Prop
  | array {next rest : Input} {items : List Json} (bracket : skipBlank input = some '[' :: next)
      (read : readArray reader steps next = .ok (items, rest)) :
      ReadsNested reader steps input (.array items) rest
  | object {next rest : Input} {members : List (String × Json)}
      (brace : skipBlank input = some '\x7b' :: next)
      (read : readObject (readMember reader) steps [] next = .ok (members.reverse, rest)) :
      ReadsNested reader steps input (.object members) rest
  | scalar {document : Json} {rest : Input} (scalar : startsNested (skipBlank input) = false)
      (read : readScalar (skipBlank input) = .ok (document, rest)) :
      ReadsNested reader steps input document rest

theorem readNested_eq_ok_iff {reader : Input → Except Fault (Json × Input)} :
    (match skipBlank input with
      | some '[' :: next => do
          let (items, after) ← readArray reader steps next
          return (.array items, after)
      | some '\x7b' :: next => do
          let (members, after) ← readObject (readMember reader) steps [] next
          return (.object members.reverse, after)
      | next => readScalar next : Except Fault (Json × Input)) = .ok (document, rest) ↔
      ReadsNested reader steps input document rest := by
  constructor
  · intro read
    split at read
    · obtain ⟨items, rfl, itemsRead⟩ := array_eq_ok_iff.mp read
      exact .array ‹_› itemsRead
    · obtain ⟨members, rfl, membersRead⟩ := object_eq_ok_iff.mp read
      exact .object ‹_› membersRead
    next notArray notObject =>
      refine .scalar ?_ read
      unfold startsNested
      split <;> simp_all
  · intro reads
    cases reads with
    | array bracket read =>
        simp only [bracket]
        exact array_eq_ok_iff.mpr ⟨_, rfl, read⟩
    | object brace read =>
        simp only [brace]
        exact object_eq_ok_iff.mpr ⟨_, rfl, read⟩
    | scalar scalar read =>
        split
        · simp_all [startsNested]
        · simp_all [startsNested]
        · exact read

theorem readValue_succ_eq_ok_iff :
    readValue steps (nesting + 1) input = .ok (document, rest) ↔
      ReadsNested (readValue steps nesting) steps input document rest :=
  readNested_eq_ok_iff

theorem orPassedOver_of_eq_ok {read : Except Fault (Json × Input)}
    (succeeded : read = .ok (document, rest)) :
    orPassedOver steps input read = .ok (document, rest) := by
  rw [succeeded]
  rfl

theorem outlineValue_of_readsNested
    (reads : ReadsNested (outlineValue steps nesting) steps input document rest) :
    outlineValue steps (nesting + 1) input = .ok (document, rest) :=
  orPassedOver_of_eq_ok (readNested_eq_ok_iff.mpr reads)

theorem skipValue_of_readsNested {reader : Input → Except Fault (Json × Input)} {levels : Nat}
    (skips : ∀ input document rest, reader input = .ok (document, rest) →
      skipValue steps levels input = .ok rest)
    (reads : ReadsNested reader steps input document rest) :
    skipValue steps (levels + 1) input = .ok rest := by
  refine skipValue_eq_ok_iff.mpr ?_
  cases reads with
  | array bracket read =>
      refine .inl ⟨_, bracket, ?_⟩
      rcases readArray_eq_ok_iff.mp read with ⟨ended, -⟩ | ⟨starts, items⟩
      · exact .inl ended
      · exact .inr ⟨starts, skipItems_of_readItems (skipValue_skipBlank steps levels) skips items⟩
  | object brace read =>
      refine .inr (.inl ⟨_, brace, ?_⟩)
      rcases readObject_eq_ok_iff.mp read with ⟨ended, -⟩ | ⟨next, quote, members⟩
      · exact .inl ended
      · exact .inr (skipMembers_of_readEntries skips (by rw [skipBlank_skipBlank, quote]) members)
  | scalar scalar read => exact .inr (.inr ⟨scalar, skipScalar_of_readScalar read⟩)

theorem skipValue_of_orPassedOver {read : Except Fault (Json × Input)} {levels : Nat}
    (skips : read = .ok (document, rest) → skipValue steps (steps + levels) input = .ok rest)
    (outlined : orPassedOver steps input read = .ok (document, rest)) :
    skipValue steps (steps + levels) input = .ok rest := by
  unfold orPassedOver at outlined
  split at outlined
  · exact skips outlined
  · obtain ⟨after, skipped, finished⟩ := bind_eq_ok_iff.mp outlined
    cases finished
    exact skipValue_mono (Nat.le_refl steps) (Nat.le_add_right steps levels) skipped

/-- An outline ends where one who passes over the value arrives. -/
theorem skipValue_of_outlineValue
    (outlined : outlineValue steps nesting input = .ok (document, rest)) :
    skipValue steps (steps + (nesting + 1)) input = .ok rest := by
  induction nesting generalizing input document rest with
  | zero =>
      refine skipValue_of_orPassedOver (fun read => ?_) outlined
      obtain ⟨scalar, read⟩ := readValue_zero_eq_ok_iff.mp read
      exact skipValue_eq_ok_iff.mpr (.inr (.inr ⟨scalar, skipScalar_of_readScalar read⟩))
  | succ nesting induction =>
      refine skipValue_of_orPassedOver (fun read => ?_) outlined
      exact skipValue_of_readsNested (fun _ _ _ => induction) (readNested_eq_ok_iff.mp read)

theorem exists_orPassedOver (skipped : skipValue steps steps input = .ok rest)
    (read : Except Fault (Json × Input)) :
    ∃ result, orPassedOver steps input read = .ok result := by
  cases read with
  | ok result => exact ⟨result, rfl⟩
  | error fault => exact ⟨(.null, rest), by rw [orPassedOver.eq_def, skipped]; rfl⟩

/-- What can be passed over has an outline. -/
theorem outlineValue_of_skipValue (enough : steps ≤ bound) (nesting : Nat)
    (skipped : skipValue steps steps input = .ok rest) :
    ∃ document, outlineValue bound nesting input = .ok (document, rest) := by
  have passed := skipValue_mono enough enough skipped
  have succeeds : ∃ result, outlineValue bound nesting input = .ok result := by
    cases nesting <;> exact exists_orPassedOver passed _
  obtain ⟨⟨document, after⟩, outlined⟩ := succeeds
  obtain rfl := skipValue_unique (skipValue_of_outlineValue outlined) passed
  exact ⟨document, outlined⟩

/-- The outline of a value that can be read is the value. -/
theorem outlineValue_of_readValue (enough : steps ≤ bound)
    (read : readValue steps nesting input = .ok (document, rest)) :
    outlineValue bound nesting input = .ok (document, rest) := by
  induction nesting generalizing input document rest with
  | zero =>
      refine orPassedOver_of_eq_ok (readValue_zero_eq_ok_iff.mpr ?_)
      exact readValue_zero_eq_ok_iff.mp read
  | succ nesting induction =>
      have follows : Follows (readValue steps nesting) (outlineValue bound nesting)
          (fun _ => True) Eq := fun _ value _ read _ => ⟨value, induction read, rfl⟩
      refine outlineValue_of_readsNested ?_
      cases readValue_succ_eq_ok_iff.mp read with
      | array bracket read =>
          obtain ⟨others, followed, same⟩ := follows.readArray enough read fun _ _ => trivial
          obtain rfl := List.forall₂_eq_eq_eq ▸ same
          exact .array bracket followed
      | object brace read =>
          obtain ⟨others, followed, same⟩ := follows.readMember.readObject enough read
            (fun _ _ => trivial) .nil
          have equal : List.Forall₂ Eq _ others := same.imp fun _ _ both => Prod.ext both.1 both.2
          obtain rfl := List.forall₂_eq_eq_eq ▸ equal
          exact .object brace followed
      | scalar scalar read => exact .scalar scalar read

end Json
end ForeignBindings
