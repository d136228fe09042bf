import ForeignBindings.Proofs.Json.Records
import ForeignBindings.Proofs.Metadata.Order
import ForeignBindings.Proofs.Metadata.Written
import ForeignBindings.Proofs.Module.Refusal
import Mathlib.Data.List.Perm.Subperm

/-!
# What a document lists

The functions, types and fields that the text of metadata lists, seen in the outline of the text,
against those of the module.  Maps are read before any name is checked, so what a text declares
more than once is merged: the checks for repeated names never see it.
-/

namespace ForeignBindings
namespace Metadata

open Checks
open Json (ReadsOutlined ReadsShown WritesEntries)

section Readers

variable {bound : Nat}

theorem readsOutlined_readRef :
    ReadsOutlined bound readRef fun reference document =>
      Ref.ofJson? document = some reference := by
  intro limits input rest reference enough read
  obtain ⟨⟨document, after⟩, documentRead, read⟩ := bind_eq_ok_iff.mp read
  simp only at read
  split at read
  next found =>
    cases read
    exact ⟨document, Json.outlineValue_of_readValue enough documentRead, found⟩
  · cases read

theorem readsOutlined_readBody :
    ReadsOutlined bound readBody fun body document => Body.ofJson? document = some body := by
  intro limits input rest body enough read
  obtain ⟨⟨document, after⟩, documentRead, read⟩ := bind_eq_ok_iff.mp read
  simp only at read
  split at read
  next found =>
    cases read
    exact ⟨document, Json.outlineValue_of_readValue enough documentRead, found⟩
  · cases read

/-- Every field of a function stands in its outline. -/
theorem functionFields_readsShown : ReadsShown bound functionFields fun _ _ => True where
  field := by
    intro limits members draft field input rest next enough inside _ _ read
    simp only [functionFields, List.mem_cons, List.not_mem_nil, or_false] at inside
    rcases inside with rfl | rfl | rfl | rfl <;>
      obtain ⟨⟨value, after⟩, valueRead, finished⟩ := bind_eq_ok_iff.mp read <;> cases finished
    · obtain ⟨document, outlined, -⟩ := readsOutlined_readRef.readList enough valueRead
      exact ⟨⟨document, outlined, trivial⟩, by simp [functionFields]⟩
    · obtain ⟨document, outlined, -⟩ := readsOutlined_readRef enough valueRead
      exact ⟨⟨document, outlined, trivial⟩, by simp [functionFields]⟩
    · obtain ⟨document, outlined, -⟩ := Json.readsOutlined_readBool enough valueRead
      exact ⟨⟨document, outlined, trivial⟩, by simp [functionFields]⟩
    · obtain ⟨document, outlined, -⟩ := Json.readsOutlined_readOptionalText enough valueRead
      exact ⟨⟨document, outlined, trivial⟩, by simp [functionFields]⟩
  other := fun _ _ _ _ _ _ => trivial

theorem readsOutlined_readFunction (room : 4 ≤ bound) :
    ReadsOutlined bound readFunction fun _ _ => True := by
  intro limits input rest function enough read
  obtain ⟨⟨draft, after⟩, record, finished⟩ := bind_eq_ok_iff.mp read
  cases finished
  obtain ⟨document, members, outlined, -⟩ := functionFields_readsShown.readRecord (by decide) room
    trivial (by simp [functionFields]) enough record
  exact ⟨document, outlined, trivial⟩

/-- Whether the members of a document list the functions and types of a draft. -/
structure Draft.ListedBy (members : List (String × Json)) (draft : Draft) : Prop where
  /-- The functions are members of an object. -/
  symbols : Option.Rel (WritesEntries fun _ _ => True) draft.symbols
    (Json.member? members "symbols")
  /-- The types are members of an object, each with its declaration. -/
  typeDefs : Option.Rel (WritesEntries fun body document => Body.ofJson? document = some body)
    draft.typeDefs (Json.member? members "typeDefs")

section Append

variable {α : Type} {related : α → Json → Prop} {value? : Option α} {members : List (String × Json)}
  {key name : String} {document : Json}

theorem member?_append :
    Json.member? (members ++ [(key, document)]) name =
      (Json.member? members name).or (if key = name then some document else none) := by
  rw [Json.member?, Json.member?, List.find?_append]
  cases members.find? fun member => member.1 == name with
  | none => by_cases same : key = name <;> simp [same]
  | some member => rfl

/-- Another member changes nothing. -/
theorem rel_append_of_ne (different : key ≠ name)
    (held : Option.Rel related value? (Json.member? members name)) :
    Option.Rel related value? (Json.member? (members ++ [(key, document)]) name) := by
  rwa [member?_append, if_neg different, Option.or_none]

/-- The first member of its name is found. -/
theorem rel_append_of_none {value : α} (shown : related value document)
    (held : Option.Rel related none (Json.member? members name)) :
    Option.Rel related (some value) (Json.member? (members ++ [(name, document)]) name) := by
  generalize found : Json.member? members name = member? at held
  cases held
  rw [member?_append, found, if_pos rfl]
  exact .some shown

end Append

/-- A member that is neither the functions nor the types lists nothing. -/
theorem Draft.ListedBy.other {members : List (String × Json)} {draft : Draft}
    (listed : draft.ListedBy members) {name : String} (noSymbols : name ≠ "symbols")
    (noTypes : name ≠ "typeDefs") (document : Json) :
    draft.ListedBy (members ++ [(name, document)]) :=
  ⟨rel_append_of_ne noSymbols listed.symbols, rel_append_of_ne noTypes listed.typeDefs⟩

/-- Every field of the metadata stands in its outline, with the functions and types it lists. -/
theorem fields_readsShown (room : 4 ≤ bound) :
    ReadsShown bound fields fun members draft => draft.ListedBy members where
  field := by
    intro limits members draft field input rest next enough inside listed unread read
    simp only [fields, List.mem_cons, List.not_mem_nil, or_false] at inside
    rcases inside with rfl | rfl | rfl | rfl | rfl <;>
      obtain ⟨⟨value, after⟩, valueRead, finished⟩ := bind_eq_ok_iff.mp read <;> cases finished
    · obtain ⟨document, outlined, -⟩ := Json.readsOutlined_readText enough valueRead
      have still : Draft.ListedBy members { draft with name := some value } :=
        ⟨listed.symbols, listed.typeDefs⟩
      exact ⟨⟨document, outlined, still.other (by decide) (by decide) document⟩, by simp [fields]⟩
    · obtain ⟨document, outlined, -⟩ := Json.readsOutlined_readBool enough valueRead
      have still : Draft.ListedBy members { draft with littleEndian := some value } :=
        ⟨listed.symbols, listed.typeDefs⟩
      exact ⟨⟨document, outlined, still.other (by decide) (by decide) document⟩, by simp [fields]⟩
    · obtain ⟨document, outlined, shown⟩ :=
        (readsOutlined_readFunction room).readMap enough valueRead
      have fresh : draft.symbols = none := by simpa using unread
      refine ⟨⟨document, outlined, ?_, rel_append_of_ne (by decide) listed.typeDefs⟩,
        by simp [fields]⟩
      exact rel_append_of_none shown (fresh ▸ listed.symbols)
    · obtain ⟨document, outlined, shown⟩ := readsOutlined_readBody.readMap enough valueRead
      have fresh : draft.typeDefs = none := by simpa using unread
      refine ⟨⟨document, outlined, rel_append_of_ne (by decide) listed.symbols, ?_⟩,
        by simp [fields]⟩
      exact rel_append_of_none shown (fresh ▸ listed.typeDefs)
    · obtain ⟨document, outlined, -⟩ := Json.readsOutlined_readText.readMap enough valueRead
      have still : Draft.ListedBy members { draft with hostTypes := some value } :=
        ⟨listed.symbols, listed.typeDefs⟩
      exact ⟨⟨document, outlined, still.other (by decide) (by decide) document⟩, by simp [fields]⟩
  other := by
    intro members draft name document unknown listed
    simp only [fields, List.map_cons, List.map_nil, List.mem_cons, List.not_mem_nil, or_false,
      not_or] at unknown
    exact listed.other unknown.2.2.1 unknown.2.2.2.1 document

end Readers

/-- Metadata that is read comes from a draft that the outline of the text lists. -/
theorem exists_outline_of_read {text : String} {metadata : Metadata}
    (read : Metadata.read text = .ok metadata) :
    ∃ document root draft, Json.outline (Text.Piece.ofText text) = .ok document ∧
      Json.recordMembers? (fields.map Json.RecordField.name) document = some root ∧
      Draft.ListedBy root draft ∧ metadata = draft.finish := by
  obtain ⟨⟨draft, rest⟩, record, read⟩ := bind_eq_ok_iff.mp read
  obtain ⟨_, ended, finished⟩ := bind_eq_ok_iff.mp read
  cases finished
  have room : 127 ≤ (Text.Piece.ofText text).length + Json.maxNesting := Nat.le_add_left _ _
  have shown := (fields_readsShown (Nat.le_trans (by decide) room)).readRecord (by decide)
    (Nat.le_trans (by decide) room) ⟨.none, .none⟩ (by simp [fields])
    (Nat.add_le_add_left (by decide) _) record
  obtain ⟨document, root, outlined, isRoot, listed⟩ := shown
  refine ⟨document, root, draft, ?_, isRoot, listed, rfl⟩
  simp only [Json.outline, outlined, bind, Except.bind, ended]
  rfl

/-- The names of the members of an object, if there is one. -/
def listedNames : Option Json → List String
  | some (.object members) => members.map Prod.fst
  | _ => []

/-- The last member of a given name of an object. -/
def lastMember? (name : String) : Option Json → Option Json
  | some (.object members) => Json.member? members.reverse name
  | _ => none

/-- The object whose members are the fields of a struct. -/
def fieldObject? (body : Json) : Option Json :=
  match Body.ofJson? body with
  | some (.struct _) =>
      (Json.recordMembers? ["fields", "layout", "docs"] body).bind (Json.member? · "fields")
  | some (.bare _) => some body
  | _ => none

/-- Whether the names that are kept are the names that are listed, each of them once. -/
structure KeepsOnce (kept listed : List String) : Prop where
  /-- No name is kept twice. -/
  distinct : kept.Nodup
  /-- A name is kept if it is listed. -/
  same : ∀ name, name ∈ kept ↔ name ∈ listed
  /-- As many names are kept as are listed exactly if none is listed twice. -/
  length_eq_iff : kept.length = listed.length ↔ listed.Nodup

namespace KeepsOnce

variable {kept others listed : List String}

theorem of_same (distinct : kept.Nodup) (same : ∀ name, name ∈ kept ↔ name ∈ listed) :
    KeepsOnce kept listed := by
  refine ⟨distinct, same, fun length => ?_, fun listed_distinct => ?_⟩
  · have within : List.Subperm kept listed :=
      List.subperm_of_subset distinct fun name inside => (same name).mp inside
    exact (List.Subperm.perm_of_length_le within (Nat.le_of_eq length.symm)).nodup_iff.mp distinct
  · exact ((List.perm_ext_iff_of_nodup distinct listed_distinct).mpr same).length_eq

theorem perm (keeps : KeepsOnce kept listed) (perm : others.Perm kept) : KeepsOnce others listed :=
  of_same (perm.nodup_iff.mpr keeps.distinct) fun name => perm.mem_iff.trans (keeps.same name)

theorem ofList {α : Type} {insertions : List (String × α)}
    (named : insertions.map Prod.fst = listed) :
    KeepsOnce (Entries.ofList insertions).names listed :=
  of_same (Entries.ofList insertions).names_nodup fun _ => named ▸ Entries.mem_names_ofList

end KeepsOnce

/-- What a module keeps of what the members of a document list. -/
structure KeepsListed (root : List (String × Json)) (module : BindingModule) : Prop where
  /-- The functions are those of the document. -/
  functions : KeepsOnce (module.signatures.map Signature.name)
    (listedNames (Json.member? root "symbols"))
  /-- The types are those of the document. -/
  types : KeepsOnce (module.types.toList.map TypeDecl.name)
    (listedNames (Json.member? root "typeDefs"))
  /-- The fields of a struct are those of the last declaration of its name. -/
  fields : ∀ decl ∈ module.types.toList, ∀ struct, decl.kind = .struct struct →
    ∃ body, lastMember? decl.name (Json.member? root "typeDefs") = some body ∧
      KeepsOnce struct.fields.names (listedNames (fieldObject? body))

theorem keepsOnce_of_rel {α : Type} {shows : α → Json → Prop}
    {entries? : Option (List (String × α))} {object? : Option Json}
    (related : Option.Rel (WritesEntries shows) entries? object?) :
    KeepsOnce (Entries.ofList (entries?.getD [])).names (listedNames object?) := by
  cases related with
  | none => exact .ofList rfl
  | some written =>
      obtain ⟨members, rfl, each⟩ := written
      refine .ofList ?_
      induction each with
      | nil => rfl
      | cons head _ induction => exact congrArg₂ List.cons head.1 induction

theorem find?_of_forall₂ {α : Type} {shows : α → Json → Prop} {entries : List (String × α)}
    {members : List (String × Json)}
    (each : List.Forall₂ (fun entry member => entry.1 = member.1 ∧ shows entry.2 member.2) entries
      members) {name : String} {value : α}
    (found : (entries.find? fun entry => entry.1 == name).map Prod.snd = some value) :
    ∃ document, Json.member? members name = some document ∧ shows value document := by
  induction each with
  | nil => cases found
  | @cons entry member entries members head _ induction =>
      rw [Json.member?]
      by_cases same : member.1 = name
      · have here : entry.1 = name := head.1.trans same
        obtain rfl : entry.2 = value := by simpa [here] using found
        exact ⟨member.2, by simp [same], head.2⟩
      · have elsewhere : entry.1 ≠ name := fun here => same (head.1.symm.trans here)
        rw [List.find?_cons_of_neg (by simpa using elsewhere)] at found
        rw [List.find?_cons_of_neg (by simpa using same)]
        exact induction found

/-- The last entry of a name is the entry of the last member of that name. -/
theorem lastMember?_of_rel {α : Type} {shows : α → Json → Prop}
    {entries? : Option (List (String × α))} {object? : Option Json}
    (related : Option.Rel (WritesEntries shows) entries? object?) {name : String} {value : α}
    (found : (Entries.ofList (entries?.getD [])).find? name = some value) :
    ∃ document, lastMember? name object? = some document ∧ shows value document := by
  cases related with
  | none => simp [Entries.find?_ofList] at found
  | some written =>
      obtain ⟨members, rfl, each⟩ := written
      rw [Entries.find?_ofList] at found
      exact find?_of_forall₂ (List.forall₂_reverse_iff.mpr each) found

theorem keepsOnce_of_fields? {document : Json} {fields : Entries Ref}
    (read : fields? document = some fields) :
    KeepsOnce fields.names (listedNames (some document)) := by
  cases document with
  | object members =>
      obtain ⟨entries, entriesRead, finished⟩ := Option.bind_eq_some_iff.mp read
      cases finished
      refine .ofList ?_
      clear read
      induction members generalizing entries with
      | nil =>
          cases entriesRead
          rfl
      | cons member members induction =>
          rw [List.mapM_cons] at entriesRead
          simp only [Option.bind_eq_bind, Option.bind_eq_some_iff] at entriesRead
          obtain ⟨entry, ⟨reference, -, named⟩, others, rest, finished⟩ := entriesRead
          cases named
          cases finished
          exact congrArg (member.1 :: ·) (induction others rest)
  | _ => cases read

theorem keepsOnce_of_struct {document : Json} {body : StructBody}
    (read : StructBody.ofJson? document = some body) :
    KeepsOnce body.fields.names (listedNames
      ((Json.recordMembers? ["fields", "layout", "docs"] document).bind
        (Json.member? · "fields"))) := by
  rw [StructBody.ofJson?] at read
  split at read
  next value layout docs slots =>
    obtain ⟨fields, fieldsRead, read⟩ := Option.bind_eq_some_iff.mp read
    obtain ⟨encoding, -, read⟩ := Option.bind_eq_some_iff.mp read
    obtain ⟨text, -, finished⟩ := Option.bind_eq_some_iff.mp read
    cases finished
    have slot : (Json.recordMembers? ["fields", "layout", "docs"] document).bind
        (Json.member? · "fields") = some value := by
      cases document with
      | object members =>
          injection eq_of_slots?_object slots with first
          exact first.symm
      | array items =>
          rw [slots?] at slots
          split at slots
          · cases items with
            | nil => cases slots
            | cons item items =>
                injection slots with slots
                injection slots
          · cases slots
      | _ => cases slots
    rw [slot]
    exact keepsOnce_of_fields? fieldsRead
  · cases read

theorem structBody_of_ofJson? {document : Json} {body : StructBody}
    (read : Body.ofJson? document = some (.struct body)) :
    StructBody.ofJson? document = some body := by
  simpa [Body.ofJson?] using read

theorem fields_of_ofJson? {document : Json} {fields : Entries Ref}
    (read : Body.ofJson? document = some (.bare fields)) : fields? document = some fields := by
  have forms : StructBody.ofJson? document = none ∧ UnionBody.ofJson? document = none ∧
      fields? document = some fields := by simpa [Body.ofJson?] using read
  exact forms.2.2

/-- The fields that are kept of a struct are those of its object. -/
theorem keepsOnce_of_body {document : Json} {body : Body} {name : String} {decl : TypeDecl}
    {struct : StructDecl} (read : Body.ofJson? document = some body)
    (converted : body.toDecl name = .ok decl) (isStruct : decl.kind = .struct struct) :
    KeepsOnce struct.fields.names (listedNames (fieldObject? document)) := by
  have renamed (fields : Entries Ref) : (fields.map Ref.toTypeRef).names = fields.names := by
    simp [Entries.names]
  rw [fieldObject?, read]
  cases body with
  | struct body =>
      cases converted
      cases isStruct
      rw [renamed]
      exact keepsOnce_of_struct (structBody_of_ofJson? read)
  | bare fields =>
      cases converted
      cases isStruct
      rw [renamed]
      exact keepsOnce_of_fields? (fields_of_ofJson? read)
  | union body =>
      obtain ⟨union, -, converted⟩ := bind_eq_ok_iff.mp converted
      cases converted
      cases isStruct

/-- A module holds the functions and types of its metadata, each under its name. -/
theorem normalizes_of_toModule {metadata : Metadata} {profile : Profile}
    {location : LibraryLocation} {module : BindingModule}
    (converted : metadata.toModule profile location = .ok module) :
    (module.signatures.map Signature.name).Perm metadata.symbols.names ∧
      ∃ decls, metadata.toDecls = .ok decls ∧ module.types.toList.Perm decls := by
  obtain ⟨decls, typesOf, built⟩ := bind_eq_ok_iff.mp converted
  obtain ⟨-, normalizes⟩ := ModuleDraft.build_eq_ok_iff.mp built
  refine ⟨?_, decls, typesOf, normalizes.types_perm⟩
  have perm := normalizes.signatures_perm.map Signature.name
  rwa [List.map_map] at perm

/-- No metadata is refused because a function or a type is declared twice. -/
theorem toModule_avoids_repetition (metadata : Metadata) (profile : Profile)
    (location : LibraryLocation) :
    Avoids ModuleError.isRepetition (metadata.toModule profile location) := by
  cases converted : metadata.toDecls with
  | error cause =>
      obtain ⟨union, -, rfl⟩ := toDecls_eq_error converted
      rw [toModule, converted]
      exact .error rfl
  | ok decls =>
      have types_distinct : (decls.map TypeDecl.name).Nodup :=
        names_of_toDecls converted ▸ metadata.typeDefs.names_nodup
      have functions_distinct : ((metadata.symbols.toList.map fun entry =>
          entry.2.toSignature entry.1).map Signature.name).Nodup := by
        rw [List.map_map]
        exact metadata.symbols.names_nodup
      rw [toModule, converted]
      exact ModuleDraft.build_avoids_repetition types_distinct functions_distinct

theorem keepsListed_of_toModule {text : String} {metadata : Metadata} {profile : Profile}
    {location : LibraryLocation} {module : BindingModule}
    (read : Metadata.read text = .ok metadata)
    (converted : metadata.toModule profile location = .ok module) :
    ∃ document root, Json.outline (Text.Piece.ofText text) = .ok document ∧
      Json.recordMembers? (fields.map Json.RecordField.name) document = some root ∧
      KeepsListed root module := by
  obtain ⟨document, root, draft, outlined, isRoot, listed, rfl⟩ := exists_outline_of_read read
  obtain ⟨signatures, decls, typesOf, types⟩ := normalizes_of_toModule converted
  refine ⟨document, root, outlined, isRoot, ?_, ?_, ?_⟩
  · exact (keepsOnce_of_rel listed.symbols).perm signatures
  · refine (keepsOnce_of_rel listed.typeDefs).perm ?_
    have named := types.map TypeDecl.name
    rwa [names_of_toDecls typesOf] at named
  · intro decl inside struct isStruct
    obtain ⟨⟨name, body⟩, declared, converted⟩ :=
      exists_source_of_mapM_eq_ok typesOf (types.mem_iff.mp inside)
    obtain rfl : decl.name = name := name_of_entryDecl converted
    obtain ⟨plain, plainOf, finished⟩ := bind_eq_ok_iff.mp converted
    obtain ⟨document, last, bodyRead⟩ :=
      lastMember?_of_rel listed.typeDefs (Entries.find?_eq_some_iff.mpr declared)
    have same : { plain with hostText := draft.finish.hostTypes.find? decl.name } = decl :=
      Except.ok.inj finished
    have kept : plain.kind = decl.kind := by rw [← same]
    exact ⟨document, last, keepsOnce_of_body bodyRead plainOf (kept.trans isStruct)⟩

/-- What a text declares more than once is merged and not refused.  The module has every function,
type and field of a struct that is listed in the text, each once, and of several declarations of a
type the last; so it has as many as the text lists exactly if the text lists none of them twice. -/
theorem toModule_merges_repeated {text : String} {metadata : Metadata}
    (read : Metadata.read text = .ok metadata) (profile : Profile) (location : LibraryLocation) :
    (∀ name, metadata.toModule profile location ≠ .error (.duplicateFunction name) ∧
      metadata.toModule profile location ≠ .error (.duplicateType name)) ∧
    ∀ module, metadata.toModule profile location = .ok module →
      ∃ document root, Json.outline (Text.Piece.ofText text) = .ok document ∧
        Json.recordMembers? (fields.map Json.RecordField.name) document = some root ∧
        KeepsListed root module := by
  refine ⟨fun name => ⟨fun refused => ?_, fun refused => ?_⟩, fun module converted =>
    keepsListed_of_toModule read converted⟩
  · cases toModule_avoids_repetition metadata profile location _ refused
  · cases toModule_avoids_repetition metadata profile location _ refused

/-- A text that declares a function and a field of a struct twice. -/
def repeatedText : String :=
  "\x7b\"name\":\"d\",\"symbols\":\x7b\"f\":\x7b\x7d,\"f\":\x7b\"result\":\"i32\"\x7d\x7d," ++
    "\"typeDefs\":\x7b\"T\":\x7b\"x\":\"i32\",\"x\":\"i64\"\x7d\x7d\x7d"

/-- The members of its document. -/
def repeatedRoot : List (String × Json) :=
  [("name", .string "d"),
    ("symbols", .object [("f", .object []), ("f", .object [("result", .string "i32")])]),
    ("typeDefs", .object [("T", .object [("x", .string "i32"), ("x", .string "i64")])])]

/-- What is read of it. -/
def repeatedMetadata : Metadata where
  name := "d"
  littleEndian := true
  symbols := .ofList [("f", ⟨[], .bare "i32", false, none⟩)]
  typeDefs := .ofList [("T", .bare (.ofList [("x", .bare "i64")]))]
  hostTypes := .empty

/-- The module with one function and one type of one field. -/
def repeatedModule : BindingModule where
  name := "d"
  options := ⟨.little, .release, .targetDirectory .release⟩
  types := ⟨#[⟨"T", .struct ⟨.ofList [("x", .primitive .i64)], .structured⟩, none, none⟩]⟩
  signatures := [⟨"f", [], .primitive .i32, false, none⟩]

set_option maxRecDepth 2000 in
theorem read_repeatedText : Metadata.read repeatedText = .ok repeatedMetadata := rfl

theorem toModule_repeatedMetadata :
    repeatedMetadata.toModule .release (.targetDirectory .release) = .ok repeatedModule := rfl

theorem toModule_merges_repeated_repeatedText :
    ∃ document root, Json.outline (Text.Piece.ofText repeatedText) = .ok document ∧
      Json.recordMembers? (fields.map Json.RecordField.name) document = some root ∧
      KeepsListed root repeatedModule :=
  (toModule_merges_repeated read_repeatedText .release (.targetDirectory .release)).2 repeatedModule
    toModule_repeatedMetadata

set_option maxRecDepth 2000 in
/-- Not every function and field that a text lists is a function or a field of the module. -/
theorem repeated_not_refused :
    Metadata.read repeatedText = .ok repeatedMetadata ∧
      repeatedMetadata.toModule .release (.targetDirectory .release) = .ok repeatedModule ∧
      Json.outline (Text.Piece.ofText repeatedText) = .ok (.object repeatedRoot) ∧
      repeatedModule.signatures.length ≠
        (listedNames (Json.member? repeatedRoot "symbols")).length ∧
      (repeatedModule.types.toList.map fun decl => (decl.name, decl.kind)) =
        [("T", .struct ⟨.ofList [("x", .primitive .i64)], .structured⟩)] ∧
      (lastMember? "T" (Json.member? repeatedRoot "typeDefs")).map
        (fun body => listedNames (fieldObject? body)) = some ["x", "x"] :=
  ⟨read_repeatedText, toModule_repeatedMetadata, rfl, by decide, rfl, rfl⟩

end Metadata
end ForeignBindings
