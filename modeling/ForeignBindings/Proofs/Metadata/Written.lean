import ForeignBindings.Metadata.Reader
import ForeignBindings.Proofs.Entries
import ForeignBindings.Proofs.Json.Normal
import ForeignBindings.Proofs.Json.TypedValues
import Mathlib.Data.List.Nodup

/-!
# Documents that write metadata

How metadata is written as a JSON document.  Records are objects of known members, in any order and
each at most once; a member may be left out if its value is the default.  The fields of a type, the
functions and the types stand in their order.
-/

namespace ForeignBindings

namespace Json

/-- Whether the members of a record are known and distinct. -/
structure IsRecord (keys : List String) (members : List (String × Json)) : Prop where
  /-- No member occurs twice. -/
  distinct : (members.map Prod.fst).Nodup
  /-- Every member is known. -/
  known : members.map Prod.fst ⊆ keys

theorem isRecord_of_names {keys : List String} {members : List (String × Json)}
    (named : members.map Prod.fst = keys) (distinct : keys.Nodup) : IsRecord keys members :=
  ⟨named ▸ distinct, named ▸ List.Subset.refl keys⟩

/-- Whether a member is written in a given way, or left out where this is allowed. -/
def Member (members : List (String × Json)) (key : String) (writes : Json → Prop)
    (mayLack : Prop) : Prop :=
  match member? members key with
  | some value => writes value
  | none => mayLack

namespace Member

variable {members : List (String × Json)} {key : String} {writes : Json → Prop} {mayLack : Prop}

theorem writes_of_mem (member : Member members key writes mayLack)
    (distinct : (members.map Prod.fst).Nodup) {value : Json} (inside : (key, value) ∈ members) :
    writes value := by
  rwa [Member, member?_eq_some_of_mem distinct inside] at member

theorem mayLack_of_not_mem (member : Member members key writes mayLack)
    (absent : key ∉ members.map Prod.fst) : mayLack := by
  rwa [Member, member?_eq_none_iff.mpr absent] at member

theorem exists_of_required (member : Member members key writes False) :
    ∃ value, member? members key = some value ∧ writes value := by
  rw [Member] at member
  split at member
  next value found => exact ⟨value, found, member⟩
  · exact member.elim

end Member
end Json

namespace Metadata

open Json (Member IsRecord WritesList WritesEntries ofOptionalText)

/-- A reference as a document. -/
def Ref.toJson : Ref → Json
  | .bare name => .string name
  | .structEnum ident => .object [("structenum", .object [("ident", .string ident)])]

/-- Fields as a document. -/
def fieldsJson (fields : Entries Ref) : Json :=
  .object (fields.toList.map fun entry => (entry.1, entry.2.toJson))

/-- The fields of a payload as a document. -/
def payloadJson : Option (Entries Ref) → Json
  | none => .null
  | some fields => fieldsJson fields

/-- The name of an encoding. -/
def encodingJson : Encoding → Json
  | .structured => .string "structured"
  | .fixed => .string "fixed"

/-- Whether an object writes a struct with its encoding and documentation. -/
structure StructBody.WrittenBy (body : StructBody) (members : List (String × Json)) : Prop where
  isRecord : IsRecord ["fields", "layout", "docs"] members
  fields : Member members "fields" (· = fieldsJson body.fields) False
  layout : Member members "layout" (· = encodingJson body.layout) (body.layout = .structured)
  docs : Member members "docs" (· = ofOptionalText body.docs) (body.docs = none)

/-- Whether an object writes a variant. -/
structure VariantBody.WrittenBy (body : VariantBody) (members : List (String × Json)) : Prop where
  isRecord : IsRecord ["name", "fields", "docs"] members
  name : Member members "name" (· = .string body.name) False
  fields : Member members "fields" (· = payloadJson body.fields) (body.fields = none)
  docs : Member members "docs" (· = ofOptionalText body.docs) (body.docs = none)

/-- Whether a document writes a variant. -/
def VariantBody.WrittenAs (body : VariantBody) (document : Json) : Prop :=
  ∃ members, document = .object members ∧ body.WrittenBy members

/-- Whether an object writes a tagged union. -/
structure UnionBody.WrittenBy (body : UnionBody) (members : List (String × Json)) : Prop where
  isRecord : IsRecord ["variants", "tag", "content", "layout", "docs"] members
  variants : Member members "variants" (WritesList VariantBody.WrittenAs body.variants) False
  tag : Member members "tag" (· = ofOptionalText body.tag) (body.tag = none)
  content : Member members "content" (· = ofOptionalText body.content) (body.content = none)
  layout : Member members "layout" (· = encodingJson body.layout) (body.layout = .structured)
  docs : Member members "docs" (· = ofOptionalText body.docs) (body.docs = none)

/-- Whether a document writes a type declaration in its own form. -/
inductive Body.WrittenAs : Body → Json → Prop
  | struct {body : StructBody} {members : List (String × Json)} (written : body.WrittenBy members) :
      WrittenAs (.struct body) (.object members)
  | union {body : UnionBody} {members : List (String × Json)} (written : body.WrittenBy members) :
      WrittenAs (.union body) (.object members)
  | bare (fields : Entries Ref) : WrittenAs (.bare fields) (fieldsJson fields)

/-- Whether an object writes a function. -/
structure Function.WrittenBy (function : Function) (members : List (String × Json)) : Prop where
  isRecord : IsRecord ["parameters", "result", "nonBlocking", "docs"] members
  parameters : Member members "parameters"
    (WritesList (fun reference document => document = reference.toJson) function.parameters)
    (function.parameters = [])
  result : Member members "result" (· = function.result.toJson)
    (function.result = .bare Primitive.void.token)
  nonBlocking : Member members "nonBlocking" (· = .bool function.nonBlocking)
    (function.nonBlocking = false)
  docs : Member members "docs" (· = ofOptionalText function.docs) (function.docs = none)

/-- Whether a document writes a function. -/
def Function.WrittenAs (function : Function) (document : Json) : Prop :=
  ∃ members, document = .object members ∧ function.WrittenBy members

end Metadata

/-- Whether an object writes the metadata of a library. -/
structure Metadata.WrittenBy (metadata : Metadata) (members : List (String × Json)) : Prop where
  isRecord : Json.IsRecord ["name", "littleEndian", "symbols", "typeDefs", "tsTypes"] members
  name : Json.Member members "name" (· = .string metadata.name) False
  littleEndian : Json.Member members "littleEndian" (· = .bool metadata.littleEndian)
    (metadata.littleEndian = true)
  symbols : Json.Member members "symbols"
    (Json.WritesEntries Metadata.Function.WrittenAs metadata.symbols.toList)
    (metadata.symbols.toList = [])
  typeDefs : Json.Member members "typeDefs"
    (Json.WritesEntries Metadata.Body.WrittenAs metadata.typeDefs.toList)
    (metadata.typeDefs.toList = [])
  hostTypes : Json.Member members "tsTypes"
    (Json.WritesEntries (fun text document => document = .string text) metadata.hostTypes.toList)
    (metadata.hostTypes.toList = [])

/-- Whether a document writes the metadata of a library. -/
def Metadata.WrittenAs (metadata : Metadata) (document : Json) : Prop :=
  ∃ members, document = .object members ∧ metadata.WrittenBy members

namespace Metadata

open Json (Member IsRecord WritesList WritesEntries ofOptionalText)

theorem Ref.ofJson?_toJson (reference : Ref) : Ref.ofJson? reference.toJson = some reference := by
  cases reference with
  | bare name => rfl
  | structEnum ident => simp [Ref.toJson, Ref.ofJson?, onlyMember?, ident?, Json.text?]

/-- A reference is no object of fields. -/
theorem fields?_toJson (reference : Ref) : fields? reference.toJson = none := by
  cases reference with
  | bare name => rfl
  | structEnum ident => simp [Ref.toJson, fields?, Ref.ofJson?, onlyMember?]

/-- A reference is no list of variants. -/
theorem variants?_toJson (reference : Ref) : variants? reference.toJson = none := by
  cases reference <;> rfl

theorem fields?_fieldsJson (fields : Entries Ref) : fields? (fieldsJson fields) = some fields := by
  have each (entries : List (String × Ref)) :
      (entries.map fun entry => (entry.1, entry.2.toJson)).mapM (fun member => do
        let type ← Ref.ofJson? member.2
        return (member.1, type)) = some entries := by
    induction entries with
    | nil => rfl
    | cons entry entries induction =>
        rw [List.map_cons, List.mapM_cons, induction, Ref.ofJson?_toJson]
        rfl
  simp only [fields?, fieldsJson]
  rw [each]
  exact congrArg some fields.ofList_toList

section Members

variable {members : List (String × Json)}

theorem slots?_eq {keys : List String} (isRecord : IsRecord keys members) :
    slots? keys (.object members) = some (keys.map (Json.member? members)) := by
  have known : (members.map Prod.fst).all keys.contains := by
    rw [List.all_eq_true]
    exact fun name inside => List.contains_iff_mem.mpr (isRecord.known inside)
  have once : keys.all fun key => (members.filter fun member => member.1 == key).length ≤ 1 := by
    rw [List.all_eq_true]
    intro key _
    have count := List.nodup_iff_count_le_one.mp isRecord.distinct key
    rw [List.count, List.countP_map, List.countP_eq_length_filter] at count
    exact decide_eq_true count
  rw [slots?, known, once]
  rfl

theorem eq_of_slots?_object {keys : List String} {slots : List (Option Json)}
    (found : slots? keys (.object members) = some slots) :
    slots = keys.map (Json.member? members) := by
  rw [slots?] at found
  split at found <;> cases found
  rfl

/-- An object with an unknown member is no record. -/
theorem slots?_eq_none {keys : List String} {key : String} (unknown : key ∉ keys)
    (inside : key ∈ members.map Prod.fst) : slots? keys (.object members) = none := by
  have refused : (members.map Prod.fst).all keys.contains = false := by
    rw [List.all_eq_false]
    exact ⟨key, inside, by simpa using unknown⟩
  rw [slots?, refused]
  rfl

theorem optionalText?_member {key : String} {text : Option String}
    (member : Member members key (· = ofOptionalText text) (text = none)) :
    optionalText? (Json.member? members key) = some text := by
  rw [Member] at member
  split at member <;> rename_i found <;> rw [found]
  · subst member
    cases text <;> rfl
  · rw [member]
    rfl

theorem encoding?_member {key : String} {encoding : Encoding}
    (member : Member members key (· = encodingJson encoding) (encoding = .structured)) :
    encoding? (Json.member? members key) = some encoding := by
  rw [Member] at member
  split at member <;> rename_i found <;> rw [found]
  · subst member
    cases encoding <;> rfl
  · rw [member]
    rfl

theorem optionalFields?_member {key : String} {fields : Option (Entries Ref)}
    (member : Member members key (· = payloadJson fields) (fields = none)) :
    optionalFields? (Json.member? members key) = some fields := by
  rw [Member] at member
  split at member <;> rename_i found <;> rw [found]
  · subst member
    cases fields with
    | none => rfl
    | some fields =>
        have read := fields?_fieldsJson fields
        simp only [payloadJson, fieldsJson] at read ⊢
        rw [optionalFields?, read]
        · rfl
        · exact nofun
  · rw [member]
    rfl

end Members

theorem StructBody.ofJson?_of_writtenBy {body : StructBody} {members : List (String × Json)}
    (written : body.WrittenBy members) : StructBody.ofJson? (.object members) = some body := by
  obtain ⟨fields, found, rfl⟩ := written.fields.exists_of_required
  rw [StructBody.ofJson?, slots?_eq written.isRecord]
  simp [found, fields?_fieldsJson, encoding?_member written.layout,
    optionalText?_member written.docs]

theorem VariantBody.ofJson?_of_writtenAs {body : VariantBody} {document : Json}
    (written : body.WrittenAs document) : VariantBody.ofJson? document = some body := by
  obtain ⟨members, rfl, written⟩ := written
  obtain ⟨name, found, rfl⟩ := written.name.exists_of_required
  rw [VariantBody.ofJson?, slots?_eq written.isRecord]
  simp [found, optionalFields?_member written.fields, optionalText?_member written.docs]

theorem variants?_of_writesList {variants : List VariantBody} {document : Json}
    (written : WritesList VariantBody.WrittenAs variants document) :
    variants? document = some variants := by
  obtain ⟨items, rfl, written⟩ := written
  rw [variants?]
  induction written with
  | nil => rfl
  | cons head _ induction =>
      rw [List.mapM_cons, VariantBody.ofJson?_of_writtenAs head, induction]
      rfl

theorem UnionBody.ofJson?_of_writtenBy {body : UnionBody} {members : List (String × Json)}
    (written : body.WrittenBy members) : UnionBody.ofJson? (.object members) = some body := by
  obtain ⟨variants, found, variantsWritten⟩ := written.variants.exists_of_required
  rw [UnionBody.ofJson?, slots?_eq written.isRecord]
  simp [found, variants?_of_writesList variantsWritten, encoding?_member written.layout,
    optionalText?_member written.tag, optionalText?_member written.content,
    optionalText?_member written.docs]

/-- An object whose values are references fits no other form, whatever its fields are called. -/
theorem exists_of_member?_fieldsJson {fields : Entries Ref} {key : String} {value : Json}
    (found : Json.member? (fields.toList.map fun entry => (entry.1, entry.2.toJson)) key =
      some value) : ∃ reference : Ref, value = reference.toJson := by
  obtain ⟨entry, -, same⟩ := List.mem_map.mp (Json.mem_of_member?_eq_some found)
  cases same
  exact ⟨entry.2, rfl⟩

theorem StructBody.ofJson?_fieldsJson (fields : Entries Ref) :
    StructBody.ofJson? (fieldsJson fields) = none := by
  rw [StructBody.ofJson?]
  split
  next value layout docs slots =>
    injection eq_of_slots?_object slots with first
    obtain ⟨reference, rfl⟩ := exists_of_member?_fieldsJson first.symm
    rw [fields?_toJson]
    rfl
  · rfl

theorem UnionBody.ofJson?_fieldsJson (fields : Entries Ref) :
    UnionBody.ofJson? (fieldsJson fields) = none := by
  rw [UnionBody.ofJson?]
  split
  next value tag content layout docs slots =>
    injection eq_of_slots?_object slots with first
    obtain ⟨reference, rfl⟩ := exists_of_member?_fieldsJson first.symm
    rw [variants?_toJson]
    rfl
  · rfl

/-- Variants fit no struct. -/
theorem StructBody.ofJson?_of_union {body : UnionBody} {members : List (String × Json)}
    (written : body.WrittenBy members) : StructBody.ofJson? (.object members) = none := by
  obtain ⟨variants, found, -⟩ := written.variants.exists_of_required
  have inside : "variants" ∈ members.map Prod.fst :=
    List.mem_map.mpr ⟨_, Json.mem_of_member?_eq_some found, rfl⟩
  rw [StructBody.ofJson?, slots?_eq_none (by decide) inside]

/-- A declaration is read back in the form in which it is written. -/
theorem Body.ofJson?_of_writtenAs {body : Body} {document : Json}
    (written : body.WrittenAs document) : Body.ofJson? document = some body := by
  cases written with
  | struct written => simp [Body.ofJson?, StructBody.ofJson?_of_writtenBy written]
  | union written =>
      simp [Body.ofJson?, StructBody.ofJson?_of_union written,
        UnionBody.ofJson?_of_writtenBy written]
  | bare fields =>
      simp [Body.ofJson?, StructBody.ofJson?_fieldsJson, UnionBody.ofJson?_fieldsJson,
        fields?_fieldsJson]

/-- A struct as a document. -/
def StructBody.toJson (body : StructBody) : Json :=
  .object [("fields", fieldsJson body.fields), ("layout", encodingJson body.layout),
    ("docs", ofOptionalText body.docs)]

/-- A variant as a document. -/
def VariantBody.toJson (body : VariantBody) : Json :=
  .object [("name", .string body.name), ("fields", payloadJson body.fields),
    ("docs", ofOptionalText body.docs)]

/-- A tagged union as a document. -/
def UnionBody.toJson (body : UnionBody) : Json :=
  .object [("variants", .array (body.variants.map VariantBody.toJson)),
    ("tag", ofOptionalText body.tag), ("content", ofOptionalText body.content),
    ("layout", encodingJson body.layout), ("docs", ofOptionalText body.docs)]

/-- A type declaration as a document. -/
def Body.toJson : Body → Json
  | .struct body => body.toJson
  | .union body => body.toJson
  | .bare fields => fieldsJson fields

/-- A function as a document. -/
def Function.toJson (function : Function) : Json :=
  .object [("parameters", .array (function.parameters.map Ref.toJson)),
    ("result", function.result.toJson), ("nonBlocking", .bool function.nonBlocking),
    ("docs", ofOptionalText function.docs)]

/-- The metadata of a library as a document with all its members. -/
def toJson (metadata : Metadata) : Json :=
  .object [("name", .string metadata.name), ("littleEndian", .bool metadata.littleEndian),
    ("symbols", .object (metadata.symbols.toList.map fun entry => (entry.1, entry.2.toJson))),
    ("typeDefs", .object (metadata.typeDefs.toList.map fun entry => (entry.1, entry.2.toJson))),
    ("tsTypes", .object (metadata.hostTypes.toList.map fun entry => (entry.1, .string entry.2)))]

theorem writesList_map {α : Type} (writes : α → Json → Prop) {change : α → Json}
    (each : ∀ value, writes value (change value)) (values : List α) :
    WritesList writes values (.array (values.map change)) :=
  ⟨values.map change, rfl, List.forall₂_map_right_iff.mpr (List.forall₂_same.mpr fun value _ =>
    each value)⟩

theorem writesEntries_map {α : Type} (writes : α → Json → Prop) {change : α → Json}
    (each : ∀ value, writes value (change value)) (entries : List (String × α)) :
    WritesEntries writes entries (.object (entries.map fun entry => (entry.1, change entry.2))) :=
  ⟨_, rfl, List.forall₂_map_right_iff.mpr (List.forall₂_same.mpr fun entry _ =>
    ⟨rfl, each entry.2⟩)⟩

theorem StructBody.writtenBy_toJson (body : StructBody) :
    (Body.struct body).WrittenAs body.toJson :=
  .struct ⟨Json.isRecord_of_names rfl (by decide), rfl, rfl, rfl⟩

theorem VariantBody.writtenAs_toJson (body : VariantBody) : body.WrittenAs body.toJson :=
  ⟨_, rfl, Json.isRecord_of_names rfl (by decide), rfl, rfl, rfl⟩

theorem UnionBody.writtenAs_toJson (body : UnionBody) : (Body.union body).WrittenAs body.toJson :=
  .union ⟨Json.isRecord_of_names rfl (by decide),
    writesList_map VariantBody.WrittenAs VariantBody.writtenAs_toJson body.variants, rfl, rfl, rfl,
    rfl⟩

theorem Body.writtenAs_toJson (body : Body) : body.WrittenAs body.toJson := by
  cases body with
  | struct body => exact body.writtenBy_toJson
  | union body => exact body.writtenAs_toJson
  | bare fields => exact .bare fields

theorem Function.writtenAs_toJson (function : Function) : function.WrittenAs function.toJson :=
  ⟨_, rfl, Json.isRecord_of_names rfl (by decide),
    writesList_map (fun (reference : Ref) document => document = reference.toJson) (fun _ => rfl)
      function.parameters, rfl, rfl, rfl⟩

theorem writtenAs_toJson (metadata : Metadata) : metadata.WrittenAs metadata.toJson :=
  ⟨_, rfl, Json.isRecord_of_names rfl (by decide), rfl, rfl,
    writesEntries_map Function.WrittenAs Function.writtenAs_toJson metadata.symbols.toList,
    writesEntries_map Body.WrittenAs Body.writtenAs_toJson metadata.typeDefs.toList,
    writesEntries_map (fun text document => document = .string text) (fun _ => rfl)
      metadata.hostTypes.toList⟩

end Metadata
end ForeignBindings
