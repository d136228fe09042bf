import ForeignBindings.Json.Record
import ForeignBindings.Proofs.Json.Outline

/-!
# Typed values in documents

Readers of texts, truth values, lists and maps beside the reader of documents.  From a text whose
document writes a value they read the value, and what they read is shown by the outline of the
text.
-/

namespace ForeignBindings
namespace Json

open Checks

section Scalars

variable {steps nesting : Nat} {input rest : Input} {document : Json}

/-- A scalar is read without a look at the nesting. -/
theorem readValue_eq_ok_iff_of_depth_eq_zero (scalar : document.depth = 0) :
    readValue steps nesting input = .ok (document, rest) ↔
      startsNested (skipBlank input) = false ∧
        readScalar (skipBlank input) = .ok (document, rest) := by
  cases nesting with
  | zero => exact readValue_zero_eq_ok_iff
  | succ nesting =>
      rw [readValue_succ_eq_ok_iff]
      constructor
      · intro reads
        cases reads with
        | array | object => simp [depth] at scalar
        | scalar start read => exact ⟨start, read⟩
      · exact fun both => .scalar both.1 both.2

/-- How a scalar that is read starts. -/
inductive ReadsScalar : Input → Json → Input → Prop
  | string {next rest : Input} {text : String} (read : readString next = .ok (text, rest)) :
      ReadsScalar (some '"' :: next) (.string text) rest
  | null {next rest : Input} (read : expectWord ['u', 'l', 'l'] next = .ok rest) :
      ReadsScalar (some 'n' :: next) .null rest
  | yes {next rest : Input} (read : expectWord ['r', 'u', 'e'] next = .ok rest) :
      ReadsScalar (some 't' :: next) (.bool true) rest
  | no {next rest : Input} (read : expectWord ['a', 'l', 's', 'e'] next = .ok rest) :
      ReadsScalar (some 'f' :: next) (.bool false) rest
  | number {input rest : Input} {value : Number} : ReadsScalar input (.number value) rest

theorem readsScalar_of_readScalar (read : readScalar input = .ok (document, rest)) :
    ReadsScalar input document rest := by
  unfold readScalar at read
  split at read
  · cases read
  · obtain ⟨⟨text, after⟩, read, finished⟩ := bind_eq_ok_iff.mp read
    cases finished
    exact .string read
  · obtain ⟨after, read, finished⟩ := bind_eq_ok_iff.mp read
    cases finished
    exact .null read
  · obtain ⟨after, read, finished⟩ := bind_eq_ok_iff.mp read
    cases finished
    exact .yes read
  · obtain ⟨after, read, finished⟩ := bind_eq_ok_iff.mp read
    cases finished
    exact .no read
  · obtain ⟨⟨value, after⟩, _, finished⟩ := bind_eq_ok_iff.mp read
    cases finished
    exact .number
  · split at read
    · obtain ⟨⟨value, after⟩, _, finished⟩ := bind_eq_ok_iff.mp read
      cases finished
      exact .number
    · cases read
  · cases read

theorem readValue_string_iff {text : String} :
    readValue steps nesting input = .ok (.string text, rest) ↔
      readText input = .ok (text, rest) := by
  rw [readValue_eq_ok_iff_of_depth_eq_zero rfl, readText]
  constructor
  · rintro ⟨-, read⟩
    generalize skipBlank input = start at read
    cases readsScalar_of_readScalar read with
    | string read => exact read
  · intro read
    split at read
    next next quote =>
      rw [quote, readScalar, read]
      exact ⟨rfl, rfl⟩
    · cases read

theorem readValue_bool_iff {value : Bool} :
    readValue steps nesting input = .ok (.bool value, rest) ↔
      readBool input = .ok (value, rest) := by
  rw [readValue_eq_ok_iff_of_depth_eq_zero rfl, readBool]
  constructor
  · rintro ⟨-, read⟩
    generalize skipBlank input = start at read
    cases readsScalar_of_readScalar read with
    | yes read | no read =>
        simp only [read]
        rfl
  · intro read
    split at read
    iterate 2
      · obtain ⟨after, word, finished⟩ := bind_eq_ok_iff.mp read
        cases finished
        simp only [*, readScalar, startsNested]
        exact ⟨rfl, rfl⟩
    · cases read

/-- The document of a text, or `null`. -/
def ofOptionalText : Option String → Json
  | none => .null
  | some text => .string text

theorem readText_skipBlank (input : Input) : readText (skipBlank input) = readText input := by
  rw [readText, readText, skipBlank_skipBlank]

theorem readValue_ofOptionalText_iff {text : Option String} :
    readValue steps nesting input = .ok (ofOptionalText text, rest) ↔
      readOptionalText input = .ok (text, rest) := by
  rw [readOptionalText]
  cases text with
  | none =>
      rw [ofOptionalText, readValue_eq_ok_iff_of_depth_eq_zero rfl]
      constructor
      · rintro ⟨-, read⟩
        generalize skipBlank input = start at read
        cases readsScalar_of_readScalar read with
        | null read =>
            simp only [read]
            rfl
      · intro read
        split at read
        · obtain ⟨after, word, finished⟩ := bind_eq_ok_iff.mp read
          cases finished
          simp only [*, readScalar, startsNested]
          exact ⟨rfl, rfl⟩
        · obtain ⟨⟨text, after⟩, _, finished⟩ := bind_eq_ok_iff.mp read
          cases finished
  | some text =>
      rw [ofOptionalText, readValue_string_iff]
      constructor
      · intro read
        split
        next next other =>
          rw [readText, other] at read
          cases read
        · rw [readText_skipBlank, read]
          rfl
      · intro read
        split at read
        · obtain ⟨after, word, finished⟩ := bind_eq_ok_iff.mp read
          cases finished
        · obtain ⟨⟨text, after⟩, read, finished⟩ := bind_eq_ok_iff.mp read
          cases finished
          rwa [readText_skipBlank] at read

end Scalars

section Nested

variable {α : Type} {limits : Limits} {steps nesting : Nat} {input rest : Input}

theorem not_readScalar_array {items : List Json} :
    readScalar input ≠ .ok (.array items, rest) :=
  fun read => nomatch readsScalar_of_readScalar read

theorem not_readScalar_object {members : List (String × Json)} :
    readScalar input ≠ .ok (.object members, rest) :=
  fun read => nomatch readsScalar_of_readScalar read

theorem readValue_array_iff {items : List Json} :
    readValue steps nesting input = .ok (.array items, rest) ↔
      ∃ inner next, nesting = inner + 1 ∧ skipBlank input = some '[' :: next ∧
        readArray (readValue steps inner) steps next = .ok (items, rest) := by
  constructor
  · intro read
    cases nesting with
    | zero => exact absurd (readValue_zero_eq_ok_iff.mp read).2 not_readScalar_array
    | succ inner =>
        cases readValue_succ_eq_ok_iff.mp read with
        | array bracket items => exact ⟨inner, _, rfl, bracket, items⟩
        | scalar _ read => exact absurd read not_readScalar_array
  · rintro ⟨inner, next, rfl, bracket, read⟩
    exact readValue_succ_eq_ok_iff.mpr (.array bracket read)

theorem readValue_object_iff {members : List (String × Json)} :
    readValue steps nesting input = .ok (.object members, rest) ↔
      ∃ inner next, nesting = inner + 1 ∧ skipBlank input = some '\x7b' :: next ∧
        readObject (readMember (readValue steps inner)) steps [] next =
          .ok (members.reverse, rest) := by
  constructor
  · intro read
    cases nesting with
    | zero => exact absurd (readValue_zero_eq_ok_iff.mp read).2 not_readScalar_object
    | succ inner =>
        cases readValue_succ_eq_ok_iff.mp read with
        | object brace members => exact ⟨inner, _, rfl, brace, members⟩
        | scalar _ read => exact absurd read not_readScalar_object
  · rintro ⟨inner, next, rfl, brace, read⟩
    exact readValue_succ_eq_ok_iff.mpr (.object brace read)

theorem enter_eq_ok_iff {inner : Limits} :
    limits.enter = .ok inner ↔ limits = ⟨inner.nesting + 1, inner.steps⟩ := by
  obtain ⟨nesting, steps⟩ := limits
  obtain ⟨innerNesting, innerSteps⟩ := inner
  cases nesting with
  | zero => simp [Limits.enter]
  | succ nesting => simp [Limits.enter]

variable {reader : Limits → Input → Except Fault (α × Input)}

theorem readList_eq_ok_iff {values : List α} :
    readList limits reader input = .ok (values, rest) ↔
      ∃ inner next, limits.enter = .ok inner ∧ skipBlank input = some '[' :: next ∧
        readArray (reader inner) inner.steps next = .ok (values, rest) := by
  rw [readList]
  split
  next next bracket => simp [bracket, bind_eq_ok_iff]
  next => simp_all

theorem readMap_eq_ok_iff {entries : List (String × α)} :
    readMap limits reader input = .ok (entries, rest) ↔
      ∃ inner next, limits.enter = .ok inner ∧ skipBlank input = some '\x7b' :: next ∧
        readObject (readMember (reader inner)) inner.steps [] next =
          .ok (entries.reverse, rest) := by
  rw [readMap]
  split
  next next brace =>
    simp only [brace, bind_eq_ok_iff, Prod.exists]
    constructor
    · rintro ⟨inner, entered, members, after, read, finished⟩
      cases finished
      exact ⟨inner, next, entered, rfl, by rwa [List.reverse_reverse]⟩
    · rintro ⟨inner, _, entered, ⟨⟩, read⟩
      exact ⟨inner, entered, entries.reverse, rest, read, by rw [List.reverse_reverse]; rfl⟩
  next => simp_all

end Nested

/-! ## Values that documents write -/

section Written

variable {α : Type} {reader : Limits → Input → Except Fault (α × Input)} {writes : α → Json → Prop}

/-- Whether a reader reads a value from every text whose document writes it. -/
def ReadsWritten (reader : Limits → Input → Except Fault (α × Input)) (writes : α → Json → Prop) :
    Prop :=
  ∀ ⦃limits input rest document value⦄,
    readValue limits.steps limits.nesting input = .ok (document, rest) → writes value document →
      reader limits input = .ok (value, rest)

/-- A reader of what documents write follows the reader of documents. -/
theorem ReadsWritten.follows (reads : ReadsWritten reader writes) (limits : Limits) :
    Follows (readValue limits.steps limits.nesting) (reader limits)
      (fun document => ∃ value, writes value document)
      (fun document value => ∀ other, writes other document → other = value) := by
  rintro input document rest read ⟨value, written⟩
  refine ⟨value, reads read written, fun other otherWritten => ?_⟩
  have same := (reads read otherWritten).symm.trans (reads read written)
  exact congrArg Prod.fst (Except.ok.inj same)

theorem readsWritten_readText :
    ReadsWritten (fun _ => readText) fun text document => document = .string text := by
  rintro limits input rest document text read rfl
  exact readValue_string_iff.mp read

theorem readsWritten_readBool :
    ReadsWritten (fun _ => readBool) fun value document => document = .bool value := by
  rintro limits input rest document value read rfl
  exact readValue_bool_iff.mp read

theorem readsWritten_readOptionalText :
    ReadsWritten (fun _ => readOptionalText) fun text document =>
      document = ofOptionalText text := by
  rintro limits input rest document text read rfl
  exact readValue_ofOptionalText_iff.mp read

/-- Whether a document is the array of what the values of a list are written as. -/
def WritesList (writes : α → Json → Prop) (values : List α) (document : Json) : Prop :=
  ∃ items, document = .array items ∧ List.Forall₂ writes values items

/-- Whether a document is the object of what the entries of a map are written as. -/
def WritesEntries (writes : α → Json → Prop) (entries : List (String × α)) (document : Json) :
    Prop :=
  ∃ members, document = .object members ∧
    List.Forall₂ (fun entry member => entry.1 = member.1 ∧ writes entry.2 member.2) entries members

section Forall₂

variable {β : Type} {first : α → β → Prop} {sources : List α} {middles : List β}

theorem exists_of_forall₂ (related : List.Forall₂ first sources middles) :
    ∀ middle ∈ middles, ∃ source, first source middle := by
  induction related with
  | nil => exact List.forall_mem_nil _
  | cons head _ induction => exact List.forall_mem_cons.mpr ⟨⟨_, head⟩, induction⟩

/-- A list that is related to the middle of a chain is the start of the chain, if this holds of
their elements. -/
theorem eq_of_forall₂ {targets : List α} {second : β → α → Prop}
    (same : ∀ source middle target, first source middle → second middle target → source = target)
    (related : List.Forall₂ first sources middles) (onward : List.Forall₂ second middles targets) :
    sources = targets := by
  induction related generalizing targets with
  | nil =>
      cases onward
      rfl
  | cons head _ induction =>
      cases onward with
      | cons onwardHead onwardTail =>
          rw [same _ _ _ head onwardHead, induction onwardTail]

end Forall₂

theorem ReadsWritten.readList (reads : ReadsWritten reader writes) :
    ReadsWritten (fun limits => readList limits reader) (WritesList writes) := by
  rintro ⟨nesting, steps⟩ input rest document values read ⟨items, rfl, written⟩
  obtain ⟨inner, next, rfl, bracket, read⟩ := readValue_array_iff.mp read
  obtain ⟨others, followed, related⟩ :=
    (reads.follows ⟨inner, steps⟩).readArray (Nat.le_refl steps) read (exists_of_forall₂ written)
  obtain rfl := eq_of_forall₂ (fun value _ _ written same => same value written) written related
  exact readList_eq_ok_iff.mpr ⟨⟨inner, steps⟩, next, rfl, bracket, followed⟩

theorem ReadsWritten.readMap (reads : ReadsWritten reader writes) :
    ReadsWritten (fun limits => readMap limits reader) (WritesEntries writes) := by
  rintro ⟨nesting, steps⟩ input rest document entries read ⟨members, rfl, written⟩
  obtain ⟨inner, next, rfl, brace, read⟩ := readValue_object_iff.mp read
  have backwards := List.forall₂_reverse_iff.mpr written
  have readable : ∀ member ∈ members.reverse, ∃ value, writes value member.2 := by
    intro member inside
    obtain ⟨entry, -, entryWritten⟩ := exists_of_forall₂ backwards member inside
    exact ⟨entry.2, entryWritten⟩
  obtain ⟨others, followed, related⟩ := (reads.follows ⟨inner, steps⟩).readMember.readObject
    (Nat.le_refl steps) read readable .nil
  obtain rfl := eq_of_forall₂ (fun entry member _ written same =>
    Prod.ext (written.1.trans same.1) (same.2 entry.2 written.2)) backwards related
  exact readMap_eq_ok_iff.mpr ⟨⟨inner, steps⟩, next, rfl, brace, followed⟩

end Written

section Outlined

variable {α : Type} {reader : Limits → Input → Except Fault (α × Input)} {shows : α → Json → Prop}
  {bound : Nat}

/-- Whether the outline of what a reader reads shows the value. -/
def ReadsOutlined (bound : Nat) (reader : Limits → Input → Except Fault (α × Input))
    (shows : α → Json → Prop) : Prop :=
  ∀ ⦃limits input rest value⦄, limits.steps ≤ bound → reader limits input = .ok (value, rest) →
    ∃ document, outlineValue bound limits.nesting input = .ok (document, rest) ∧
      shows value document

theorem ReadsOutlined.follows (reads : ReadsOutlined bound reader shows) {limits : Limits}
    (enough : limits.steps ≤ bound) :
    Follows (reader limits) (outlineValue bound limits.nesting) (fun _ => True) shows :=
  fun _ _ _ read _ => reads enough read

theorem readsOutlined_readText :
    ReadsOutlined bound (fun _ => readText) fun text document => document = .string text :=
  fun _ _ _ text enough read =>
    ⟨.string text, outlineValue_of_readValue enough (readValue_string_iff.mpr read), rfl⟩

theorem readsOutlined_readBool :
    ReadsOutlined bound (fun _ => readBool) fun value document => document = .bool value :=
  fun _ _ _ value enough read =>
    ⟨.bool value, outlineValue_of_readValue enough (readValue_bool_iff.mpr read), rfl⟩

theorem readsOutlined_readOptionalText :
    ReadsOutlined bound (fun _ => readOptionalText) fun text document =>
      document = ofOptionalText text :=
  fun _ _ _ text enough read =>
    ⟨ofOptionalText text,
      outlineValue_of_readValue enough (readValue_ofOptionalText_iff.mpr read), rfl⟩

theorem ReadsOutlined.readList (reads : ReadsOutlined bound reader shows) :
    ReadsOutlined bound (fun limits => readList limits reader) (WritesList shows) := by
  intro limits input rest values enough read
  obtain ⟨inner, next, entered, bracket, itemsRead⟩ := readList_eq_ok_iff.mp read
  obtain rfl := enter_eq_ok_iff.mp entered
  have follows := reads.follows (show inner.steps ≤ bound from enough)
  obtain ⟨items, followed, related⟩ := follows.readArray enough itemsRead fun _ _ => trivial
  exact ⟨.array items, outlineValue_of_readsNested (.array bracket followed), items, rfl, related⟩

theorem ReadsOutlined.readMap (reads : ReadsOutlined bound reader shows) :
    ReadsOutlined bound (fun limits => readMap limits reader) (WritesEntries shows) := by
  intro limits input rest entries enough read
  obtain ⟨inner, next, entered, brace, entriesRead⟩ := readMap_eq_ok_iff.mp read
  obtain rfl := enter_eq_ok_iff.mp entered
  have follows := reads.follows (show inner.steps ≤ bound from enough)
  obtain ⟨members, followed, related⟩ :=
    follows.readMember.readObject enough entriesRead (fun _ _ => trivial) .nil
  refine ⟨.object members.reverse, outlineValue_of_readsNested (.object brace ?_),
    members.reverse, rfl, ?_⟩
  · rwa [List.reverse_reverse]
  · rwa [← List.forall₂_reverse_iff, List.reverse_reverse]

end Outlined

end Json
end ForeignBindings
