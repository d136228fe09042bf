import ForeignBindings.Proofs.Json.TypedValues
import Mathlib.Data.List.Nodup

/-!
# Records in documents

A record is read field by field into a state.  If every field takes what documents write for it,
the record is read from an object with its members in any order; and if every field shows what it
has read, the outline of the text shows the whole record, be it an object or an array.
-/

namespace ForeignBindings
namespace Json

open Checks

section Records

variable {σ : Type} {fields : List (RecordField σ)} {limits : Limits} {start final state : σ}
  {input rest : Input} {type : String}

theorem readRecord_object_iff {next : Input} (brace : skipBlank input = some '\x7b' :: next) :
    readRecord type fields limits start input = .ok (final, rest) ↔
      ∃ inner, limits.enter = .ok inner ∧
        readObject (readField fields inner) inner.steps start next = .ok (final, rest) ∧
        fields.find? (fun field => field.required && !field.isRead final) = none := by
  rw [readRecord, brace]
  simp only [bind_eq_ok_iff, Prod.exists]
  constructor
  · rintro ⟨inner, entered, state, after, read, finished⟩
    split at finished
    · cases finished
    · cases finished
      exact ⟨inner, entered, read, ‹_›⟩
  · rintro ⟨inner, entered, read, complete⟩
    refine ⟨inner, entered, final, rest, read, ?_⟩
    rw [complete]
    rfl

theorem expectArrayEnd_eq_ok_iff :
    expectArrayEnd input = .ok rest ↔ skipBlank input = some ']' :: rest := by
  unfold expectArrayEnd
  split
  · simp_all
  · simp_all
  · split <;> simp_all
  · simp_all

theorem readRecord_array_iff {next : Input} (bracket : skipBlank input = some '[' :: next) :
    readRecord type fields limits start input = .ok (final, rest) ↔
      ∃ inner after, limits.enter = .ok inner ∧
        readElements ("struct " ++ type ++ " with " ++ toString fields.length ++ " elements")
          inner 0
          fields start next = .ok (final, after) ∧ skipBlank after = some ']' :: rest := by
  rw [readRecord, bracket]
  simp only [bind_eq_ok_iff, Prod.exists]
  constructor
  · rintro ⟨inner, entered, state, after, read, behind, ended, finished⟩
    cases finished
    exact ⟨inner, after, entered, read, expectArrayEnd_eq_ok_iff.mp ended⟩
  · rintro ⟨inner, after, entered, read, ended⟩
    exact ⟨inner, entered, final, after, read, rest, expectArrayEnd_eq_ok_iff.mpr ended, rfl⟩

theorem starts_of_readRecord
    (read : readRecord type fields limits start input = .ok (final, rest)) :
    ∃ next, skipBlank input = some '[' :: next ∨ skipBlank input = some '\x7b' :: next := by
  unfold readRecord at read
  split at read
  · exact ⟨_, .inl ‹_›⟩
  · exact ⟨_, .inr ‹_›⟩
  · cases read

theorem readField_known_iff {field : RecordField σ} {key : String}
    (found : (fields.find? fun field => field.name == key) = some field) :
    readField fields limits state key input = .ok (final, rest) ↔
      field.isRead state = false ∧ ∃ after, expectColon input = .ok after ∧
        field.read limits state after = .ok (final, rest) := by
  rw [readField, found]
  cases already : field.isRead state with
  | true => simp [already, bind, Except.bind, throw, throwThe, MonadExceptOf.throw]
  | false => simp [already, bind_eq_ok_iff]

theorem readField_unknown_iff {key : String}
    (unknown : (fields.find? fun field => field.name == key) = none) :
    readField fields limits state key input = .ok (final, rest) ↔
      final = state ∧ ∃ after, expectColon input = .ok after ∧
        skipValue limits.steps limits.steps after = .ok rest := by
  rw [readField, unknown]
  simp only [bind_eq_ok_iff]
  constructor
  · rintro ⟨after, colon, behind, skipped, finished⟩
    cases finished
    exact ⟨rfl, after, colon, skipped⟩
  · rintro ⟨rfl, after, colon, skipped⟩
    exact ⟨after, colon, rest, skipped, rfl⟩

/-- Whether the fields of a record take every member that may be written, once each. `agrees` says
which states go with which names of members. -/
def TakesWritten (fields : List (RecordField σ)) (agrees : List String → σ → Prop)
    (writes : String → Json → Prop) : Prop :=
  ∀ ⦃limits names state name input rest document⦄, agrees names state → name ∉ names →
    writes name document → readValue limits.steps limits.nesting input = .ok (document, rest) →
      ∃ field next, (fields.find? fun field => field.name == name) = some field ∧
        field.isRead state = false ∧ field.read limits state input = .ok (next, rest) ∧
        agrees (name :: names) next

variable {agrees : List String → σ → Prop} {writes : String → Json → Prop}

theorem TakesWritten.follows (takes : TakesWritten fields agrees writes) (limits : Limits) :
    FollowsEntries (readMember (readValue limits.steps limits.nesting)) (readField fields limits)
      (fun members => (members.map Prod.fst).Nodup ∧ ∀ member ∈ members, writes member.1 member.2)
      (fun members state => agrees (members.map Prod.fst) state) := by
  rintro members key input next rest read ⟨distinct, written⟩
  obtain ⟨after, document, colon, valueRead, rfl⟩ := readMember_eq_ok_iff.mp read
  obtain ⟨fresh, distinct⟩ := List.nodup_cons.mp distinct
  obtain ⟨first, written⟩ := List.forall_mem_cons.mp written
  refine ⟨⟨distinct, written⟩, fun state together => ?_⟩
  obtain ⟨field, next, found, unread, fieldRead, agreesNext⟩ :=
    takes together fresh first valueRead
  exact ⟨next, (readField_known_iff found).mpr ⟨unread, after, colon, fieldRead⟩, agreesNext⟩

/-- A record is read from an object whose members are written, if nothing that is required lacks. -/
theorem TakesWritten.readRecord (takes : TakesWritten fields agrees writes)
    (started : agrees [] start) {members : List (String × Json)}
    (distinct : (members.map Prod.fst).Nodup)
    (written : ∀ member ∈ members, writes member.1 member.2)
    (complete : ∀ state, agrees (members.reverse.map Prod.fst) state →
      fields.find? (fun field => field.required && !field.isRead state) = none)
    (read : readValue limits.steps limits.nesting input = .ok (.object members, rest)) :
    ∃ final, readRecord type fields limits start input = .ok (final, rest) ∧
      agrees (members.reverse.map Prod.fst) final := by
  obtain ⟨nesting, steps⟩ := limits
  obtain ⟨inner, next, rfl, brace, membersRead⟩ := readValue_object_iff.mp read
  have good : (members.reverse.map Prod.fst).Nodup ∧
      ∀ member ∈ members.reverse, writes member.1 member.2 := by
    rw [List.map_reverse, List.nodup_reverse]
    exact ⟨distinct, fun member inside => written member (List.mem_reverse.mp inside)⟩
  obtain ⟨final, followed, together⟩ :=
    (takes.follows ⟨inner, steps⟩).readObject (Nat.le_refl steps)
    membersRead good started
  exact ⟨final, (readRecord_object_iff brace).mpr ⟨⟨inner, steps⟩, rfl, followed,
    complete final together⟩, together⟩

/-- The members of a record that is written as an object or as an array of its fields in order. -/
def recordMembers? (names : List String) : Json → Option (List (String × Json))
  | .object members => some members
  | .array items => some (names.zip items)
  | _ => none

/-- Whether the outline of what a field reads is shown by the state, and other members change
nothing. -/
structure ReadsShown (bound : Nat) (fields : List (RecordField σ))
    (shows : List (String × Json) → σ → Prop) : Prop where
  field : ∀ ⦃limits members state field input rest next⦄, limits.steps ≤ bound → field ∈ fields →
    shows members state → field.isRead state = false →
      field.read limits state input = .ok (next, rest) →
        (∃ document, outlineValue bound limits.nesting input = .ok (document, rest) ∧
          shows (members ++ [(field.name, document)]) next) ∧
        ∀ other ∈ fields, other.name ≠ field.name → other.isRead next = other.isRead state
  other : ∀ ⦃members state name⦄ document, name ∉ fields.map RecordField.name →
    shows members state → shows (members ++ [(name, document)]) state

variable {bound : Nat} {shows : List (String × Json) → σ → Prop}

theorem ReadsShown.follows (reads : ReadsShown bound fields shows) (enough : limits.steps ≤ bound) :
    FollowsEntries (readField fields limits) (readMember (outlineValue bound limits.nesting))
      (fun _ => True) (fun state members => shows members.reverse state) := by
  intro state key input next rest read _
  refine ⟨trivial, fun members together => ?_⟩
  cases found : fields.find? fun field => field.name == key with
  | none =>
      obtain ⟨rfl, after, colon, skipped⟩ := (readField_unknown_iff found).mp read
      obtain ⟨document, outlined⟩ := outlineValue_of_skipValue enough limits.nesting skipped
      refine ⟨(key, document) :: members,
        readMember_eq_ok_iff.mpr ⟨after, document, colon, outlined, rfl⟩, ?_⟩
      have unknown : key ∉ fields.map RecordField.name := by simpa using found
      simpa using reads.other document unknown together
  | some field =>
      obtain ⟨unread, after, colon, fieldRead⟩ := (readField_known_iff found).mp read
      obtain rfl : field.name = key := by simpa using List.find?_some found
      obtain ⟨⟨document, outlined, shown⟩, -⟩ :=
        reads.field enough (List.mem_of_find?_eq_some found) together unread fieldRead
      refine ⟨(field.name, document) :: members,
        readMember_eq_ok_iff.mpr ⟨after, document, colon, outlined, rfl⟩, ?_⟩
      simpa using shown

/-- The first element of an array starts behind the bracket. -/
theorem nextElement_true {element : Input} (next : nextElement true input = .ok (some element)) :
    element = skipBlank input ∧ startsItem (skipBlank input) := by
  unfold nextElement at next
  split at next
  · cases next
  · cases next
  next comma =>
    rw [comma]
    exact ⟨by simpa using next.symm, rfl⟩
  next notEmpty notEnd _ =>
    exact ⟨by simpa using next.symm, startsItem_of_ne notEmpty notEnd⟩

/-- Another element of an array starts behind a comma. -/
theorem nextElement_false {element : Input} (next : nextElement false input = .ok (some element)) :
    ∃ after, skipBlank input = some ',' :: after ∧ element = skipBlank after ∧
      startsItem (skipBlank after) := by
  unfold nextElement at next
  split at next
  · cases next
  · cases next
  next after comma =>
    refine ⟨after, comma, ?_⟩
    split at next
    · exact absurd ‹_› Bool.false_ne_true
    · split at next
      · cases next
      · cases next
      next notEmpty notEnd =>
        cases next
        exact ⟨rfl, startsItem_of_ne notEmpty notEnd⟩
  · simp_all

theorem readElements_cons_eq_ok_iff {title : String} {count : Nat} {field : RecordField σ}
    {others : List (RecordField σ)} {after : Input} :
    readElements title limits count (field :: others) state input = .ok (final, after) ↔
      (nextElement (count == 0) input = .ok none ∧
        (field :: others).any RecordField.required = false ∧ final = state ∧ after = input) ∨
      ∃ element middle tail, nextElement (count == 0) input = .ok (some element) ∧
        field.read limits state element = .ok (middle, tail) ∧
        readElements title limits (count + 1) others middle tail = .ok (final, after) := by
  rw [readElements]
  cases nextElement (count == 0) input with
  | error fault => simp [bind, Except.bind]
  | ok element? =>
      cases element? with
      | none =>
          cases (field :: others).any RecordField.required with
          | true => simp [bind, Except.bind, throw, throwThe, MonadExceptOf.throw]
          | false => simp [bind, Except.bind, pure, Except.pure, eq_comm]
      | some element => simp [bind_eq_ok_iff]

/-- The elements of a record from one that is read on stand in the outline of its array. -/
theorem ReadsShown.readItems (reads : ReadsShown bound fields shows) (enough : limits.steps ≤ bound)
    {field : RecordField σ} {others : List (RecordField σ)} (known : field :: others ⊆ fields)
    (distinct : ((field :: others).map RecordField.name).Nodup) {steps : Nat}
    (room : others.length < steps) {members : List (String × Json)} (together : shows members state)
    (unread : ∀ other ∈ field :: others, other.isRead state = false) {middle : σ}
    {tail after : Input} {title : String} {count : Nat}
    (fieldRead : field.read limits state input = .ok (middle, tail))
    (elements : readElements title limits (count + 1) others middle tail = .ok (final, after))
    (ended : skipBlank after = some ']' :: rest) :
    ∃ items, readItems (outlineValue bound limits.nesting) steps input = .ok (items, rest) ∧
      shows (members ++ ((field :: others).map RecordField.name).zip items) final := by
  induction others generalizing field count steps members state middle input tail with
  | nil =>
      obtain ⟨steps, rfl⟩ := Nat.exists_eq_add_one_of_ne_zero (Nat.ne_zero_of_lt room)
      obtain ⟨⟨document, outlined, shown⟩, -⟩ := reads.field enough (known List.mem_cons_self)
        together (unread field List.mem_cons_self) fieldRead
      cases elements
      have stopped : readMore (outlineValue bound limits.nesting) steps after = .ok ([], rest) :=
        readMore_eq_ok_iff.mpr (.inl ⟨ended, rfl⟩)
      have single := readItems_eq_ok_iff.mpr ⟨document, after, [], outlined, stopped, rfl⟩
      exact ⟨[document], single, shown⟩
  | cons second others induction =>
      obtain ⟨steps, rfl⟩ := Nat.exists_eq_add_one_of_ne_zero (Nat.ne_zero_of_lt room)
      obtain ⟨⟨document, outlined, shown⟩, unchanged⟩ := reads.field enough
        (known List.mem_cons_self) together (unread field List.mem_cons_self) fieldRead
      obtain ⟨fresh, othersDistinct⟩ := List.nodup_cons.mp distinct
      have othersKnown := List.subset_of_cons_subset known
      have stillUnread : ∀ other ∈ second :: others, other.isRead middle = false := by
        intro other inside
        have otherName : other.name ≠ field.name := fun same =>
          fresh (same ▸ List.mem_map_of_mem inside)
        rw [unchanged other (othersKnown inside) otherName,
          unread other (List.mem_cons_of_mem field inside)]
      have more : ∃ items,
          readMore (outlineValue bound limits.nesting) steps tail = .ok (items, rest) ∧
            shows (members ++ [(field.name, document)] ++
              ((second :: others).map RecordField.name).zip items) final := by
        rcases readElements_cons_eq_ok_iff.mp elements with
          ⟨-, -, rfl, rfl⟩ | ⟨element, next, behind, found, secondRead, elements⟩
        · exact ⟨[], readMore_eq_ok_iff.mpr (.inl ⟨ended, rfl⟩), by simpa using shown⟩
        · obtain ⟨start, comma, rfl, starts⟩ := nextElement_false found
          obtain ⟨items, read, itemsShown⟩ := induction othersKnown othersDistinct
            (Nat.lt_of_succ_lt_succ room) shown stillUnread secondRead elements
          exact ⟨items, readMore_eq_ok_iff.mpr (.inr ⟨start, comma, starts, read⟩), itemsShown⟩
      obtain ⟨items, continued, itemsShown⟩ := more
      refine ⟨document :: items,
        readItems_eq_ok_iff.mpr ⟨document, tail, items, outlined, continued, rfl⟩, ?_⟩
      simpa using itemsShown

/-- The elements of a record stand in the outline of its array. -/
theorem ReadsShown.readArray (reads : ReadsShown bound fields shows)
    (distinct : (fields.map RecordField.name).Nodup) (room : fields.length ≤ bound)
    (together : shows [] start) (unread : ∀ field ∈ fields, field.isRead start = false)
    (enough : limits.steps ≤ bound) {title : String} {after : Input}
    (elements : readElements title limits 0 fields start input = .ok (final, after))
    (ended : skipBlank after = some ']' :: rest) :
    ∃ items, readArray (outlineValue bound limits.nesting) bound input = .ok (items, rest) ∧
      shows ((fields.map RecordField.name).zip items) final := by
  cases fields with
  | nil =>
      cases elements
      exact ⟨[], readArray_eq_ok_iff.mpr (.inl ⟨ended, rfl⟩), together⟩
  | cons field others =>
      rcases readElements_cons_eq_ok_iff.mp elements with
        ⟨-, -, rfl, rfl⟩ | ⟨element, middle, tail, found, fieldRead, elements⟩
      · exact ⟨[], readArray_eq_ok_iff.mpr (.inl ⟨ended, rfl⟩), by simpa using together⟩
      · obtain ⟨rfl, starts⟩ := nextElement_true found
        obtain ⟨items, read, shown⟩ := reads.readItems enough (List.Subset.refl _) distinct room
          together unread fieldRead elements ended
        exact ⟨items, readArray_eq_ok_iff.mpr (.inr ⟨starts, read⟩), shown⟩

/-- The outline of a record that is read shows what was read. -/
theorem ReadsShown.readRecord (reads : ReadsShown bound fields shows)
    (distinct : (fields.map RecordField.name).Nodup) (room : fields.length ≤ bound)
    (together : shows [] start) (unread : ∀ field ∈ fields, field.isRead start = false)
    (enough : limits.steps ≤ bound)
    (read : readRecord type fields limits start input = .ok (final, rest)) :
    ∃ document members, outlineValue bound limits.nesting input = .ok (document, rest) ∧
      recordMembers? (fields.map RecordField.name) document = some members ∧
      shows members final := by
  obtain ⟨next, bracket | brace⟩ := starts_of_readRecord read
  · obtain ⟨inner, after, entered, elements, ended⟩ := (readRecord_array_iff bracket).mp read
    obtain rfl := enter_eq_ok_iff.mp entered
    obtain ⟨items, outlined, shown⟩ := reads.readArray distinct room together unread
      (show inner.steps ≤ bound from enough) elements ended
    exact ⟨.array items, _, outlineValue_of_readsNested (.array bracket outlined), rfl, shown⟩
  · obtain ⟨inner, entered, entries, -⟩ := (readRecord_object_iff brace).mp read
    obtain rfl := enter_eq_ok_iff.mp entered
    obtain ⟨members, outlined, shown⟩ :=
      (reads.follows (show inner.steps ≤ bound from enough)).readObject enough entries trivial
        (show shows ([] : List (String × Json)).reverse start from together)
    refine ⟨.object members.reverse, _, outlineValue_of_readsNested (.object brace ?_), rfl, shown⟩
    rwa [List.reverse_reverse]

end Records

end Json
end ForeignBindings
