import ForeignBindings.Proofs.Json.Records
import ForeignBindings.Proofs.Json.RoundTrip
import ForeignBindings.Proofs.Metadata.Written

/-!
# Reading undoes writing

Whatever metadata is written as a document is read back from every text of the document: every
function and type in its place, every reference and declaration in its own form.  A record is
followed member by member with the draft that holds the fields of the names read so far.
-/

namespace ForeignBindings
namespace Metadata

open Checks
open Json (ReadsWritten TakesWritten WritesList WritesEntries ofOptionalText Member)

theorem readsWritten_readRef :
    ReadsWritten readRef fun reference document => document = reference.toJson := by
  rintro limits input rest document reference read rfl
  simp only [readRef, read, bind, Except.bind, Ref.ofJson?_toJson]
  rfl

theorem readsWritten_readBody : ReadsWritten readBody Body.WrittenAs := by
  intro limits input rest document body read written
  simp only [readBody, read, bind, Except.bind, Body.ofJson?_of_writtenAs written]
  rfl

/-- The draft that holds the fields of the given names. -/
def Function.draft (function : Function) (names : List String) : FunctionDraft :=
  { parameters := if "parameters" ∈ names then some function.parameters else none
    result := if "result" ∈ names then some function.result else none
    nonBlocking := if "nonBlocking" ∈ names then some function.nonBlocking else none
    docs := if "docs" ∈ names then some function.docs else none }

/-- Whether a member of an object writes a field of a function. -/
inductive Function.WritesMember (function : Function) : String → Json → Prop
  | parameters {document : Json}
      (written : WritesList (fun reference document => document = reference.toJson)
        function.parameters document) : WritesMember function "parameters" document
  | result : WritesMember function "result" function.result.toJson
  | nonBlocking : WritesMember function "nonBlocking" (.bool function.nonBlocking)
  | docs : WritesMember function "docs" (ofOptionalText function.docs)

theorem Function.takesWritten (function : Function) :
    TakesWritten functionFields (fun names draft => draft = function.draft names)
      function.WritesMember := by
  rintro limits names _ name input rest document rfl fresh written read
  cases written with
  | parameters written =>
      have reads : Json.readList limits readRef input = .ok (function.parameters, rest) :=
        readsWritten_readRef.readList read written
      exact ⟨_, function.draft ("parameters" :: names), rfl, by simp [draft, fresh],
        by simp [reads, draft, bind, Except.bind, pure, Except.pure], rfl⟩
  | result =>
      have reads : readRef limits input = .ok (function.result, rest) :=
        readsWritten_readRef read rfl
      exact ⟨_, function.draft ("result" :: names), rfl, by simp [draft, fresh],
        by simp [reads, draft, bind, Except.bind, pure, Except.pure], rfl⟩
  | nonBlocking =>
      have reads : Json.readBool input = .ok (function.nonBlocking, rest) :=
        Json.readsWritten_readBool read rfl
      exact ⟨_, function.draft ("nonBlocking" :: names), rfl, by simp [draft, fresh],
        by simp [reads, draft, bind, Except.bind, pure, Except.pure], rfl⟩
  | docs =>
      have reads : Json.readOptionalText input = .ok (function.docs, rest) :=
        Json.readsWritten_readOptionalText read rfl
      exact ⟨_, function.draft ("docs" :: names), rfl, by simp [draft, fresh],
        by simp [reads, draft, bind, Except.bind, pure, Except.pure], rfl⟩

theorem Function.writesMember_of_mem {function : Function} {members : List (String × Json)}
    (written : function.WrittenBy members) :
    ∀ member ∈ members, function.WritesMember member.1 member.2 := by
  rintro ⟨name, document⟩ inside
  have distinct := written.isRecord.distinct
  have known := written.isRecord.known (List.mem_map.mpr ⟨_, inside, rfl⟩)
  simp only [List.mem_cons, List.not_mem_nil, or_false] at known
  rcases known with rfl | rfl | rfl | rfl
  · exact .parameters (written.parameters.writes_of_mem distinct inside)
  · obtain rfl := written.result.writes_of_mem distinct inside
    exact .result
  · obtain rfl := written.nonBlocking.writes_of_mem distinct inside
    exact .nonBlocking
  · obtain rfl := written.docs.writes_of_mem distinct inside
    exact .docs

/-- A field that is read, or else the default that a member that lacks stands for. -/
theorem getD_of_lacks {α : Type} {members : List (String × Json)} {key : String}
    {value default : α} (lacks : key ∉ members.map Prod.fst → value = default) :
    (if key ∈ members.reverse.map Prod.fst then some value else none).getD default = value := by
  split
  · rfl
  next absent =>
    rw [List.map_reverse, List.mem_reverse] at absent
    exact (lacks absent).symm

theorem Function.finish_draft {function : Function} {members : List (String × Json)}
    (written : function.WrittenBy members) :
    (function.draft (members.reverse.map Prod.fst)).finish = function := by
  rw [draft, FunctionDraft.finish, getD_of_lacks written.parameters.mayLack_of_not_mem,
    getD_of_lacks written.result.mayLack_of_not_mem,
    getD_of_lacks written.nonBlocking.mayLack_of_not_mem,
    getD_of_lacks written.docs.mayLack_of_not_mem]

theorem readsWritten_readFunction : ReadsWritten readFunction Function.WrittenAs := by
  rintro limits input rest _ function read ⟨members, rfl, written⟩
  have record : ∃ draft, Json.readRecord "RawSignature" functionFields limits
      ⟨none, none, none, none⟩ input = .ok (draft, rest) ∧
        draft = function.draft (members.reverse.map Prod.fst) :=
    function.takesWritten.readRecord rfl written.isRecord.distinct
      (Function.writesMember_of_mem written) (fun _ _ => rfl) read
  obtain ⟨_, record, rfl⟩ := record
  rw [readFunction, record]
  exact congrArg (fun function => Except.ok (function, rest)) (Function.finish_draft written)

/-- The draft that holds the fields of the given names. -/
def draft (metadata : Metadata) (names : List String) : Draft :=
  { name := if "name" ∈ names then some metadata.name else none
    littleEndian := if "littleEndian" ∈ names then some metadata.littleEndian else none
    symbols := if "symbols" ∈ names then some metadata.symbols.toList else none
    typeDefs := if "typeDefs" ∈ names then some metadata.typeDefs.toList else none
    hostTypes := if "tsTypes" ∈ names then some metadata.hostTypes.toList else none }

/-- Whether a member of an object writes a field of the metadata. -/
inductive WritesMember (metadata : Metadata) : String → Json → Prop
  | name : WritesMember metadata "name" (.string metadata.name)
  | littleEndian : WritesMember metadata "littleEndian" (.bool metadata.littleEndian)
  | symbols {document : Json}
      (written : WritesEntries Function.WrittenAs metadata.symbols.toList document) :
      WritesMember metadata "symbols" document
  | typeDefs {document : Json}
      (written : WritesEntries Body.WrittenAs metadata.typeDefs.toList document) :
      WritesMember metadata "typeDefs" document
  | hostTypes {document : Json}
      (written : WritesEntries (fun text document => document = .string text)
        metadata.hostTypes.toList document) : WritesMember metadata "tsTypes" document

theorem takesWritten (metadata : Metadata) :
    TakesWritten fields (fun names draft => draft = metadata.draft names)
      metadata.WritesMember := by
  rintro limits names _ name input rest document rfl fresh written read
  cases written with
  | name =>
      have reads : Json.readText input = .ok (metadata.name, rest) :=
        Json.readsWritten_readText read rfl
      exact ⟨_, metadata.draft ("name" :: names), rfl, by simp [draft, fresh],
        by simp [reads, draft, bind, Except.bind, pure, Except.pure], rfl⟩
  | littleEndian =>
      have reads : Json.readBool input = .ok (metadata.littleEndian, rest) :=
        Json.readsWritten_readBool read rfl
      exact ⟨_, metadata.draft ("littleEndian" :: names), rfl, by simp [draft, fresh],
        by simp [reads, draft, bind, Except.bind, pure, Except.pure], rfl⟩
  | symbols written =>
      have reads : Json.readMap limits readFunction input = .ok (metadata.symbols.toList, rest) :=
        readsWritten_readFunction.readMap read written
      exact ⟨_, metadata.draft ("symbols" :: names), rfl, by simp [draft, fresh],
        by simp [reads, draft, bind, Except.bind, pure, Except.pure], rfl⟩
  | typeDefs written =>
      have reads : Json.readMap limits readBody input = .ok (metadata.typeDefs.toList, rest) :=
        readsWritten_readBody.readMap read written
      exact ⟨_, metadata.draft ("typeDefs" :: names), rfl, by simp [draft, fresh],
        by simp [reads, draft, bind, Except.bind, pure, Except.pure], rfl⟩
  | hostTypes written =>
      have reads : Json.readMap limits (fun _ => Json.readText) input =
          .ok (metadata.hostTypes.toList, rest) :=
        Json.readsWritten_readText.readMap read written
      exact ⟨_, metadata.draft ("tsTypes" :: names), rfl, by simp [draft, fresh],
        by simp [reads, draft, bind, Except.bind, pure, Except.pure], rfl⟩

theorem writesMember_of_mem {metadata : Metadata} {members : List (String × Json)}
    (written : metadata.WrittenBy members) :
    ∀ member ∈ members, metadata.WritesMember member.1 member.2 := by
  rintro ⟨name, document⟩ inside
  have distinct := written.isRecord.distinct
  have known := written.isRecord.known (List.mem_map.mpr ⟨_, inside, rfl⟩)
  simp only [List.mem_cons, List.not_mem_nil, or_false] at known
  rcases known with rfl | rfl | rfl | rfl | rfl
  · obtain rfl := written.name.writes_of_mem distinct inside
    exact .name
  · obtain rfl := written.littleEndian.writes_of_mem distinct inside
    exact .littleEndian
  · exact .symbols (written.symbols.writes_of_mem distinct inside)
  · exact .typeDefs (written.typeDefs.writes_of_mem distinct inside)
  · exact .hostTypes (written.hostTypes.writes_of_mem distinct inside)

theorem finish_draft {metadata : Metadata} {members : List (String × Json)}
    (written : metadata.WrittenBy members) :
    (metadata.draft (members.reverse.map Prod.fst)).finish = metadata := by
  rw [draft, Draft.finish,
    getD_of_lacks fun absent => (written.name.mayLack_of_not_mem absent).elim,
    getD_of_lacks written.littleEndian.mayLack_of_not_mem,
    getD_of_lacks written.symbols.mayLack_of_not_mem,
    getD_of_lacks written.typeDefs.mayLack_of_not_mem,
    getD_of_lacks written.hostTypes.mayLack_of_not_mem, Entries.ofList_toList,
    Entries.ofList_toList, Entries.ofList_toList]

/-- A text is read as the metadata that its document writes. -/
theorem read_of_writtenAs {metadata : Metadata} {document : Json} {text : String}
    (written : metadata.WrittenAs document)
    (read : Json.read (Text.Piece.ofText text) = .ok document) :
    Metadata.read text = .ok metadata := by
  obtain ⟨members, rfl, written⟩ := written
  obtain ⟨⟨document, rest⟩, read, finished⟩ := bind_eq_ok_iff.mp read
  obtain ⟨_, ended, finished⟩ := bind_eq_ok_iff.mp finished
  cases finished
  have nameGiven : "name" ∈ members.reverse.map Prod.fst := by
    obtain ⟨value, found, -⟩ := written.name.exists_of_required
    rw [List.map_reverse, List.mem_reverse]
    exact List.mem_map.mpr ⟨_, Json.mem_of_member?_eq_some found, rfl⟩
  have complete : fields.find? (fun field => field.required &&
      !field.isRead (metadata.draft (members.reverse.map Prod.fst))) = none := by
    simp only [fields, draft, if_pos nameGiven]
    rfl
  have record : ∃ draft, Json.readRecord "RawMetadata" fields
      ⟨Json.maxNesting, (Text.Piece.ofText text).length + 1⟩ ⟨none, none, none, none, none⟩
      (Text.Piece.ofText text) = .ok (draft, rest) ∧
        draft = metadata.draft (members.reverse.map Prod.fst) :=
    metadata.takesWritten.readRecord rfl written.isRecord.distinct (writesMember_of_mem written)
      (fun _ agrees => agrees ▸ complete) read
  obtain ⟨_, record, rfl⟩ := record
  simp only [Metadata.read, record, bind, Except.bind, ended]
  exact congrArg Except.ok (finish_draft written)

section Plain

open Json (IsPlain)

theorem Ref.isPlain_toJson (reference : Ref) : IsPlain 2 reference.toJson := by
  cases reference with
  | bare name => exact .string name
  | structEnum ident =>
      exact .object (List.forall_mem_singleton.mpr
        (.object (List.forall_mem_singleton.mpr (.string ident))))

theorem isPlain_fieldsJson (fields : Entries Ref) : IsPlain 3 (fieldsJson fields) :=
  .object (List.forall_mem_map.mpr fun entry _ => entry.2.isPlain_toJson)

theorem isPlain_payloadJson (fields : Option (Entries Ref)) : IsPlain 3 (payloadJson fields) := by
  cases fields with
  | none => exact .null
  | some fields => exact isPlain_fieldsJson fields

theorem isPlain_encodingJson (encoding : Encoding) {height : Nat} :
    IsPlain height (encodingJson encoding) := by
  cases encoding <;> exact .string _

theorem isPlain_ofOptionalText (text : Option String) {height : Nat} :
    IsPlain height (ofOptionalText text) := by
  cases text with
  | none => exact .null
  | some text => exact .string text

theorem VariantBody.isPlain_toJson (body : VariantBody) : IsPlain 4 body.toJson := by
  refine .object ?_
  simp only [List.forall_mem_cons, List.not_mem_nil, false_implies, implies_true, and_true]
  exact ⟨.string _, isPlain_payloadJson body.fields, isPlain_ofOptionalText body.docs⟩

theorem Body.isPlain_toJson (body : Body) : IsPlain 6 body.toJson := by
  cases body with
  | struct body =>
      refine .object ?_
      simp only [List.forall_mem_cons, List.not_mem_nil, false_implies, implies_true, and_true]
      exact ⟨(isPlain_fieldsJson body.fields).mono (by decide), isPlain_encodingJson body.layout,
        isPlain_ofOptionalText body.docs⟩
  | union body =>
      refine .object ?_
      simp only [List.forall_mem_cons, List.not_mem_nil, false_implies, implies_true, and_true]
      exact ⟨.array (List.forall_mem_map.mpr fun variant _ => variant.isPlain_toJson),
        isPlain_ofOptionalText body.tag, isPlain_ofOptionalText body.content,
        isPlain_encodingJson body.layout, isPlain_ofOptionalText body.docs⟩
  | bare fields => exact (isPlain_fieldsJson fields).mono (by decide)

theorem Function.isPlain_toJson (function : Function) : IsPlain 4 function.toJson := by
  refine .object ?_
  simp only [List.forall_mem_cons, List.not_mem_nil, false_implies, implies_true, and_true]
  exact ⟨.array (List.forall_mem_map.mpr fun reference _ => reference.isPlain_toJson),
    function.result.isPlain_toJson.mono (by decide), .bool function.nonBlocking,
    isPlain_ofOptionalText function.docs⟩

theorem isPlain_toJson (metadata : Metadata) : IsPlain 8 metadata.toJson := by
  refine .object ?_
  simp only [List.forall_mem_cons, List.not_mem_nil, false_implies, implies_true, and_true]
  exact ⟨.string _, .bool metadata.littleEndian,
    (IsPlain.object (List.forall_mem_map.mpr fun entry _ => entry.2.isPlain_toJson)).mono
      (by decide),
    .object (List.forall_mem_map.mpr fun entry _ => entry.2.isPlain_toJson),
    (IsPlain.object (List.forall_mem_map.mpr fun entry _ =>
      (.string entry.2 : IsPlain 0 (.string entry.2)))).mono (by decide)⟩

end Plain

/-- Reading undoes writing.  The text with all members is read back as the metadata, and so is every
text whose document writes the metadata, with its members in any order and blanks and escapes of
any kind. -/
theorem read_written (metadata : Metadata) :
    Metadata.read metadata.toJson.compact = .ok metadata ∧
      ∀ document text, metadata.WrittenAs document →
        Json.read (Text.Piece.ofText text) = .ok document → Metadata.read text = .ok metadata := by
  refine ⟨?_, fun _ _ written read => read_of_writtenAs written read⟩
  have plain := metadata.isPlain_toJson.mono (show 8 ≤ Json.maxNesting by decide)
  exact read_of_writtenAs metadata.writtenAs_toJson plain.read_compact

/-- A type whose field is called as a member of another form, and a union with a unit variant and
one without fields. -/
def formsMetadata : Metadata where
  name := "d"
  littleEndian := true
  symbols := .empty
  typeDefs := .ofList
    [("T", .bare (.ofList [("variants", .structEnum "U")])),
      ("U", .union ⟨[⟨"A", none, none⟩, ⟨"B", some .empty, none⟩], none, none, .structured, none⟩)]
  hostTypes := .empty

/-- A text that writes the metadata with members out of order and blanks between the tokens. -/
def formsText : String :=
  "\x7b \"typeDefs\":\x7b\"T\":\x7b\"variants\":\x7b\"structenum\":\x7b\"ident\":\"U\"\x7d\x7d\x7d, " ++
    "\"U\":\x7b\"variants\":[\x7b\"name\":\"A\"\x7d, \x7b\"fields\":\x7b\x7d,\"name\":\"B\"\x7d]\x7d\x7d, " ++
    "\"name\":\"d\" \x7d"

/-- The document of the text. -/
def formsDocument : Json :=
  .object
    [("typeDefs", .object
      [("T", fieldsJson (.ofList [("variants", .structEnum "U")])),
        ("U", .object [("variants", .array [.object [("name", .string "A")],
          .object [("fields", fieldsJson .empty), ("name", .string "B")]])])]),
      ("name", .string "d")]

theorem formsMetadata_writtenAs : formsMetadata.WrittenAs formsDocument := by
  have unit : VariantBody.WrittenAs ⟨"A", none, none⟩ (.object [("name", .string "A")]) :=
    ⟨_, rfl, ⟨by decide, by decide⟩, rfl, rfl, rfl⟩
  have payload : VariantBody.WrittenAs ⟨"B", some .empty, none⟩
      (.object [("fields", fieldsJson .empty), ("name", .string "B")]) :=
    ⟨_, rfl, ⟨by decide, by decide⟩, rfl, rfl, rfl⟩
  exact ⟨_, rfl, ⟨by decide, by decide⟩, rfl, rfl, rfl,
    ⟨_, rfl, .cons ⟨rfl, .bare _⟩ (.cons ⟨rfl, .union ⟨⟨by decide, by decide⟩,
      ⟨_, rfl, .cons unit (.cons payload .nil)⟩, rfl, rfl, rfl, rfl⟩⟩ .nil)⟩, rfl⟩

set_option maxRecDepth 2000 in
theorem read_written_formsText : Metadata.read formsText = .ok formsMetadata :=
  (read_written formsMetadata).2 formsDocument formsText formsMetadata_writtenAs rfl

end Metadata
end ForeignBindings
