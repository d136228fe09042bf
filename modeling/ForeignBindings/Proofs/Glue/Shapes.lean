import ForeignBindings.Proofs.Glue.Names
import ForeignBindings.Proofs.Wire.Acceptance

/-!
# Emitted types describe accepted values

The declarations of an emitted module, read from its text, say which values are of a type: the
interface of a struct or of a variant lists the members of its values, and a union is one of the
interfaces of its variants.  The check of structured text walks the declarations of the library
instead.  A value that the check accepts is of the type that was emitted, at every depth, and the
interfaces list the members that the check demands and no other.
-/

namespace ForeignBindings
namespace Glue

open Checks Structured

/-- Whether a value of structured text is of a type, by the declarations that a text makes.  Of a
type without a rule, such as a bare array of bytes, there is no value. -/
inductive Inhabits (found : List Declared) : MemberType → Json → Prop where
  | number (number : Json.Number) : Inhabits found (.host .number) (.number number)
  | text (text : String) : Inhabits found (.host .text) (.string text)
  | null : Inhabits found (.host .null) .null
  | numbers {items : List Json} (all : ∀ item ∈ items, ∃ number, item = .number number) :
      Inhabits found (.host .numbers) (.array items)
  | literal (text : String) : Inhabits found (.literal text) (.string text)
  | payload {listed : List (String × HostType)} {members : List (String × Json)}
      (keys : HasExactly (listed.map Prod.fst) members)
      (typed : ∀ entry ∈ listed, ∀ value, Json.member? members entry.1 = some value →
        Inhabits found (.host entry.2) value) :
      Inhabits found (.payload listed) (.object members)
  | interface {name : String} {listed : List (String × MemberType)}
      {members : List (String × Json)} (declared : .interface name listed ∈ found)
      (keys : HasExactly (listed.map Prod.fst) members)
      (typed : ∀ entry ∈ listed, ∀ value, Json.member? members entry.1 = some value →
        Inhabits found entry.2 value) :
      Inhabits found (.host (.declared name)) (.object members)
  | oneOf {name alternative : String} {alternatives : List String} {value : Json}
      (declared : .oneOf name alternatives ∈ found) (listed : alternative ∈ alternatives)
      (inhabits : Inhabits found (.host (.declared alternative)) value) :
      Inhabits found (.host (.declared name)) value

/-- Whether the interfaces of a structured type list the members that the check of its values
demands. -/
structure ListsMembers (found : List Declared) (decl : TypeDecl) : Prop where
  /-- The interface of a struct lists its fields. -/
  struct : ∀ struct, decl.kind = .struct struct → ∃ listed,
    .interface decl.name listed ∈ found ∧ listed.map Prod.fst = struct.fields.names
  /-- A union is one of the interfaces of its variants. -/
  union : ∀ union, decl.kind = .union union → .oneOf decl.name decl.interfaceNames ∈ found
  /-- The interface of a variant without a payload lists the tag alone. -/
  bare : ∀ union, decl.kind = .union union → ∀ variant ∈ union.variants,
    variant.payload = none →
      .interface (Name.variantTypeName decl.name variant.name)
        [(union.tag, .literal variant.name)] ∈ found
  /-- The interface of a variant with a payload lists the tag and a content with its fields. -/
  laden : ∀ union, decl.kind = .union union → ∀ variant ∈ union.variants,
    ∀ fields, variant.payload = some fields → ∃ content,
      .interface (Name.variantTypeName decl.name variant.name)
        [(union.tag, .literal variant.name), (union.content, .payload content)] ∈ found ∧
      content.map Prod.fst = fields.names

/-- Types of one name are declared once if no two declared types share a name. -/
theorem eq_of_typeName? {found : List Declared} (distinct : (declaredTypeNames found).Nodup)
    {name : String} {first second : Declared} (inside : first ∈ found) (known : second ∈ found)
    (first_name : first.typeName? = some name) (second_name : second.typeName? = some name) :
    first = second := by
  induction found with
  | nil => cases inside
  | cons item found induction =>
      have apart (item_name : item.typeName? = some name) {other : Declared} (held : other ∈ found)
          (other_name : other.typeName? = some name) : False := by
        rw [declaredTypeNames, List.filterMap_cons_some item_name] at distinct
        exact (List.nodup_cons.mp distinct).1 (List.mem_filterMap.mpr ⟨other, held, other_name⟩)
      rcases List.mem_cons.mp inside with rfl | first_held <;>
        rcases List.mem_cons.mp known with rfl | second_held
      · rfl
      · exact (apart first_name second_held second_name).elim
      · exact (apart second_name first_held first_name).elim
      · refine induction (distinct.sublist ?_) first_held second_held
        exact (List.sublist_cons_self item found).filterMap Declared.typeName?

/-- A value of an interface is an object with the listed members and no other. -/
theorem Inhabits.hasExactly {found : List Declared} (distinct : (declaredTypeNames found).Nodup)
    {name : String} {listed : List (String × MemberType)} (declared : .interface name listed ∈ found)
    {value : Json} (inhabits : Inhabits found (.host (.declared name)) value) :
    ∃ members, value = .object members ∧ HasExactly (listed.map Prod.fst) members := by
  cases inhabits with
  | interface other keys typed =>
      cases eq_of_typeName? distinct declared other rfl rfl
      exact ⟨_, rfl, keys⟩
  | oneOf other listed inhabits => cases eq_of_typeName? distinct declared other rfl rfl

variable {draft : ModuleDraft} {module : BindingModule} {config : Config} {glue : Module}
  {types : DeclSet} {found : List Declared}

/-- Whether what is declared for a structured type follows its fields and variants. -/
structure Declares (types : DeclSet) (found : List Declared) (decl : TypeDecl) : Prop where
  /-- A struct has its interface. -/
  struct : ∀ fields, decl.kind = .struct ⟨fields, .structured⟩ → ∃ members,
    memberTypes types decl.name id .structured fields = .ok members ∧
      .interface decl.name (members.map fun member => (member.1, .host member.2)) ∈ found
  /-- A union is one of the interfaces of its variants. -/
  union : ∀ union, decl.kind = .union union → .oneOf decl.name decl.interfaceNames ∈ found
  /-- Every variant has its interface. -/
  variants : ∀ union, decl.kind = .union union → ∀ variant ∈ union.variants, ∃ interface,
    variantInterface types decl.name union variant = .ok interface ∧
      .interface interface.name interface.members ∈ found

theorem declares_of_typeDeclarations {decl : TypeDecl} (rendered : decl.hostText = none)
    {own : List Declaration} (made : typeDeclarations types decl = .ok own)
    (kept : own.flatMap Declaration.declared ⊆ found) : Declares types found decl := by
  rw [typeDeclarations, rendered] at made
  have keep {declaration : Declaration} (inside : declaration ∈ own) {item : Declared}
      (held : item ∈ declaration.declared) : item ∈ found :=
    kept (List.mem_flatMap.mpr ⟨declaration, inside, held⟩)
  cases kind : decl.kind with
  | struct struct =>
      rw [kind] at made
      obtain ⟨interface, shaped, made⟩ := bind_eq_ok_iff.mp made
      cases made
      obtain ⟨members, listed, name, shape⟩ := structInterface_eq_ok shaped
      refine ⟨fun fields same => ?_, fun union same => ?_, fun union same => ?_⟩
      · cases kind.symm.trans same
        refine ⟨members, listed, ?_⟩
        rw [← name, ← shape]
        exact keep List.mem_cons_self List.mem_cons_self
      · cases kind.symm.trans same
      · cases kind.symm.trans same
  | union union =>
      rw [kind] at made
      obtain ⟨interfaces, shaped, -, rfl⟩ := unionDeclarations_eq_ok made
      refine ⟨fun fields same => ?_, fun union same => ?_, fun union same variant held => ?_⟩
      · cases kind.symm.trans same
      · cases kind.symm.trans same
        rw [TypeDecl.interfaceNames, TypeDecl.variants, kind]
        exact keep (List.mem_append_right _ List.mem_cons_self) List.mem_cons_self
      · cases kind.symm.trans same
        obtain ⟨interface, known, made⟩ := exists_mem_of_mapM_eq_ok shaped held
        exact ⟨interface, made, keep (List.mem_append_left _ (List.mem_map_of_mem known))
          List.mem_cons_self⟩

/-- Every type of an emitted module is declared there. -/
theorem declares_of_emit (emitted : emit module config = .ok glue) {decl : TypeDecl}
    (inside : decl ∈ module.types.toList) (rendered : decl.hostText = none)
    (kept : glue.declarations.flatMap Declaration.declared ⊆ found) :
    Declares module.types found decl := by
  obtain ⟨plans, declared, -, made, rfl⟩ := emit_eq_ok emitted
  obtain ⟨own, held, own_made⟩ := exists_mem_of_mapM_eq_ok made inside
  obtain ⟨first, typed, own_made⟩ := bind_eq_ok_iff.mp own_made
  obtain ⟨second, -, own_made⟩ := bind_eq_ok_iff.mp own_made
  cases own_made
  refine declares_of_typeDeclarations rendered typed fun item known => ?_
  obtain ⟨declaration, stands, known⟩ := List.mem_flatMap.mp known
  refine kept (List.mem_flatMap.mpr ⟨declaration, ?_, known⟩)
  exact List.mem_flatten.mpr ⟨_, held, List.mem_append_left _ stands⟩

theorem Declares.listsMembers {decl : TypeDecl} (declares : Declares types found decl)
    (structured : decl.isFixedLayout = false) : ListsMembers found decl := by
  refine ⟨?_, declares.union, ?_, ?_⟩
  · rintro ⟨fields, encoding⟩ kind
    cases encoding with
    | fixed =>
        rw [TypeDecl.isFixedLayout, kind] at structured
        cases structured
    | structured =>
        obtain ⟨members, listed, held⟩ := declares.struct fields kind
        refine ⟨_, held, ?_⟩
        rw [List.map_map]
        exact (memberTypes_eq_ok listed).1
  · intro union kind variant inside unit
    obtain ⟨interface, made, held⟩ := declares.variants union kind variant inside
    obtain ⟨name, ⟨-, shape⟩ | ⟨fields, -, payload, -⟩⟩ := variantInterface_eq_ok made
    · rwa [name, shape] at held
    · cases unit.symm.trans payload
  · intro union kind variant inside fields payload
    obtain ⟨interface, made, held⟩ := declares.variants union kind variant inside
    obtain ⟨name, ⟨unit, -⟩ | ⟨others, members, same, listed, shape⟩⟩ := variantInterface_eq_ok made
    · cases unit.symm.trans payload
    · cases same.symm.trans payload
      rw [name, shape] at held
      exact ⟨members, held, (memberTypes_eq_ok listed).1⟩

/-! ## Accepted values -/

/-- A value of a primitive type is of the type that a structured field of it is emitted with. -/
theorem inhabits_primitive {primitive : Primitive} {value : Json}
    (typed : isOfPrimitive primitive value = true) {site : Site} {host : HostType}
    (resolved : types.fieldType (.primitive primitive) .structured site = .ok host) :
    Inhabits found (.host host) value := by
  have numeric (number : HostType.ofPrimitive primitive = .number ∨
      HostType.ofPrimitive primitive = .bigint) : Inhabits found (.host .number) value := by
    obtain ⟨number, rfl⟩ := eq_number_of_isOfPrimitive number typed
    exact .number number
  have bytes (array : isByteArray value = true) : Inhabits found (.host .numbers) value := by
    obtain ⟨items, rfl, all⟩ := eq_array_of_isByteArray array
    exact .numbers all
  cases primitive with
  | void =>
      cases resolved
      cases value with
      | null => exact .null
      | _ => cases typed
  | str =>
      cases resolved
      obtain ⟨text, isText⟩ := Option.isSome_iff_exists.mp typed
      exact text?_eq_some_iff.mp isText ▸ .text text
  | buffer | bufferMut | ptr =>
      cases resolved
      exact bytes typed
  | i64 | u64 | usize | isize =>
      cases resolved
      exact numeric (.inr rfl)
  | _ =>
      cases resolved
      exact numeric (.inl rfl)

/-- Members of the right types are of the types that were emitted for them. -/
theorem inhabits_members {check : Check} {typeName path : String} {pathOf : String → String}
    {fields : Fields} {listed : List (String × HostType)} {members : List (String × Json)}
    (made : memberTypes types typeName pathOf .structured fields = .ok listed)
    (accepted : ∀ field ∈ fields.toList, ∃ value, Json.member? members field.1 = some value ∧
      check field.2 value (path ++ "." ++ field.1) = .ok ())
    (inhabits : ∀ field ∈ fields.toList, ∀ value path site host,
      check field.2 value path = .ok () →
        types.fieldType field.2 .structured site = .ok host → Inhabits found (.host host) value) :
    ∀ entry ∈ listed, ∀ value, Json.member? members entry.1 = some value →
      Inhabits found (.host entry.2) value := by
  intro entry inside value held
  obtain ⟨field, known, name, resolved⟩ := (memberTypes_eq_ok made).2 entry inside
  obtain ⟨member, present, checked⟩ := accepted field known
  rw [name] at held
  cases present.symm.trans held
  exact inhabits field known value _ _ _ checked resolved

/-- An accepted value of a struct is of its interface if its members are of their types. -/
theorem Declares.inhabits_struct {decl : TypeDecl} (declares : Declares types found decl)
    {fields : Fields} (kind : decl.kind = .struct ⟨fields, .structured⟩) {check : Check}
    {value : Json} {path : String}
    (accepted : checkFields check fields value path decl.name = .ok ())
    (inhabits : ∀ reference ∈ decl.references, ∀ value path site host,
      check reference.2 value path = .ok () →
        types.fieldType reference.2 .structured site = .ok host →
          Inhabits found (.host host) value) :
    Inhabits found (.host (.declared decl.name)) value := by
  obtain ⟨members, rfl, keys, typed⟩ := checkFields_eq_ok accepted
  obtain ⟨listed, made, held⟩ := declares.struct fields kind
  rw [TypeDecl.references_of_struct kind] at inhabits
  refine .interface held ?_ ?_
  · rw [List.map_map]
    exact (memberTypes_eq_ok made).1 ▸ keys
  · rw [List.forall_mem_map]
    exact inhabits_members made typed inhabits

/-- An accepted value of a union is of the interface of a variant if the members of its payload are
of their types. -/
theorem Declares.inhabits_union {decl : TypeDecl} (declares : Declares types found decl)
    {union : UnionDecl} (kind : decl.kind = .union union) {check : Check} {value : Json}
    {path : String} (accepted : checkUnion check union value path decl.name = .ok ())
    (inhabits : ∀ reference ∈ decl.references, ∀ value path site host,
      check reference.2 value path = .ok () →
        types.fieldType reference.2 .structured site = .ok host →
          Inhabits found (.host host) value) :
    Inhabits found (.host (.declared decl.name)) value := by
  obtain ⟨members, rfl, variant, inside, tag, shape⟩ := checkUnion_eq_ok accepted
  obtain ⟨interface, made, held⟩ := declares.variants union kind variant inside
  obtain ⟨name, listed⟩ := variantInterface_eq_ok made
  have chosen : Name.variantTypeName decl.name variant.name ∈ decl.interfaceNames := by
    rw [TypeDecl.interfaceNames, TypeDecl.variants, kind]
    exact List.mem_map_of_mem inside
  have tagged {value : Json} (found_tag : Json.member? members union.tag = some value) :
      Inhabits found (.literal variant.name) value := by
    cases tag.symm.trans found_tag
    exact .literal variant.name
  refine .oneOf (declares.union union kind) chosen ?_
  rw [name] at held
  obtain ⟨unit, keys⟩ | ⟨fields, content, payload, present, keys, typed⟩ := shape
  · obtain ⟨-, listed⟩ | ⟨fields, -, payload, -, -⟩ := listed
    · rw [listed] at held
      exact .interface held keys (List.forall_mem_singleton.mpr fun _ => tagged)
    · cases unit.symm.trans payload
  · obtain ⟨unit, -⟩ | ⟨others, content_types, same, content_made, listed⟩ := listed
    · cases unit.symm.trans payload
    · cases payload.symm.trans same
      rw [listed] at held
      refine .interface held keys (List.forall_mem_cons.mpr ⟨fun _ => tagged,
        List.forall_mem_singleton.mpr fun value known => ?_⟩)
      cases present.symm.trans known
      obtain ⟨payload_members, rfl, payload_keys, payload_typed⟩ := checkFields_eq_ok typed
      refine .payload ((memberTypes_eq_ok content_made).1 ▸ payload_keys)
        (inhabits_members content_made payload_typed fun field known =>
          inhabits (variant.name ++ "." ++ field.1, field.2)
            (TypeDecl.mem_references_of_payload kind inside payload known))

/-- Whether a reference is to something else than a packed struct. -/
def IsStructured (types : DeclSet) (type : TypeRef) : Prop :=
  ∀ packed ∈ types.toList, packed.isFixedLayout = true → type ≠ .declared packed.name

/-- An accepted value is of the type that was emitted, at every depth. -/
theorem inhabits_of_checkWithin (ordered : types.Ordered)
    (declares : ∀ decl ∈ types.toList, Declares types found decl)
    (apart : ∀ decl ∈ types.toList, ∀ reference ∈ decl.references, IsStructured types reference.2)
    (levels : Nat) {type : TypeRef} (structured : IsStructured types type) (value : Json)
    (path : String) (site : Site) (host : HostType)
    (accepted : checkWithin types levels type value path = .ok ())
    (resolved : types.fieldType type .structured site = .ok host) :
    Inhabits found (.host host) value := by
  -- Members are checked with one level less, each against its own type and at its own path.
  induction levels generalizing type value path site host with
  | zero => cases accepted
  | succ levels induction =>
      obtain ⟨resolution, known, resolved⟩ := bind_eq_ok_iff.mp resolved
      obtain ⟨primitive, rfl, rfl⟩ | ⟨decl, inside, rfl, rfl⟩ := resolve_eq_ok ordered known
      · exact inhabits_primitive (isOfPrimitive_of_check accepted)
          (bind_eq_ok_iff.mpr ⟨_, known, resolved⟩)
      · cases resolved
        have inhabits : ∀ reference ∈ decl.references, ∀ value path site host,
            checkWithin types levels reference.2 value path = .ok () →
              types.fieldType reference.2 .structured site = .ok host →
                Inhabits found (.host host) value :=
          fun reference held => induction (apart decl inside reference held)
        rw [checkWithin, (DeclSet.find?_eq_some_iff ordered).mpr ⟨inside, rfl⟩] at accepted
        rcases kind : decl.kind with ⟨fields, _ | _⟩ | union
        · simp only [kind] at accepted
          exact (declares decl inside).inhabits_struct kind accepted inhabits
        · exact absurd rfl (structured decl inside (by rw [TypeDecl.isFixedLayout, kind]))
        · simp only [kind] at accepted
          exact (declares decl inside).inhabits_union kind accepted inhabits

/-- Whether the declarations of a text describe the structured values of a module. -/
structure DescribesValues (module : BindingModule) (found : List Declared) : Prop where
  /-- Every accepted value of a structured type is of the type that was emitted. -/
  inhabits : ∀ decl ∈ module.types.toList, decl.isFixedLayout = false → ∀ value,
    validate module.types (.declared decl.name) value = .ok () →
      Inhabits found (.host (.declared decl.name)) value
  /-- Values of an interface have the members that it lists and no other. -/
  keys : ∀ name listed, .interface name listed ∈ found → ∀ value,
    Inhabits found (.host (.declared name)) value →
      ∃ members, value = .object members ∧ HasExactly (listed.map Prod.fst) members
  /-- The interfaces list what the check demands. -/
  lists : ∀ decl ∈ module.types.toList, decl.isFixedLayout = false → ListsMembers found decl

/-- The declarations of an emitted module describe the structured values, whatever values a text
declares besides. -/
theorem describesValues_of_emit (built : draft.build = .ok module)
    (emitted : emit module config = .ok glue)
    (rendered : ∀ decl ∈ module.types.toList, decl.hostText = none)
    (kept : glue.declarations.flatMap Declaration.declared ⊆ found)
    (names : declaredTypeNames found = declaredTypeNames glue.declared) :
    DescribesValues module found := by
  have emittable := emittable_of_emit built emitted
  have declares (decl : TypeDecl) (inside : decl ∈ module.types.toList) :
      Declares module.types found decl :=
    declares_of_emit emitted inside (rendered decl inside) kept
  have distinct : (declaredTypeNames found).Nodup :=
    names ▸ (names_of_emit built emitted rendered).2 ▸ emittable.types_nodup
  refine ⟨?_, ?_, ?_⟩
  · intro decl inside structured value accepted
    have found := (DeclSet.find?_eq_some_iff emittable.ordered).mpr ⟨inside, rfl⟩
    have apart : IsStructured module.types (.declared decl.name) := by
      rintro packed known fixed same
      have packed_found : module.types.find? decl.name = some packed :=
        (DeclSet.find?_eq_some_iff emittable.ordered).mpr ⟨known, (TypeRef.declared.inj same).symm⟩
      cases found.symm.trans packed_found
      exact Bool.false_ne_true (structured.symm.trans fixed)
    refine inhabits_of_checkWithin emittable.ordered declares
      (fun decl inside => (emittable.wellFormed.types decl inside).packed_apart) _ apart value "$"
      (.result decl.name) _ accepted ?_
    rw [DeclSet.fieldType, DeclSet.resolve, found]
    rfl
  · exact fun name listed declared value inhabits => inhabits.hasExactly distinct declared
  · exact fun decl inside structured => (declares decl inside).listsMembers structured

/-- Read from the texts of its declarations behind their documentation, the structured types of an
emitted module describe the values that the check of structured text accepts: an accepted value is of
the emitted type at every depth, no value has a member beyond those that its interface lists, and the
interfaces of structs and of variants list exactly the members that the check demands.  These texts
stand in the text of the module, and unless documentation ends its comment, they are read from it. -/
theorem emitted_types_describe_accepted_values (built : draft.build = .ok module)
    (emitted : emit module config = .ok glue)
    (rendered : ∀ decl ∈ module.types.toList, decl.hostText = none) :
    (∀ declaration ∈ glue.declarations,
        glue.Shows (declarationText glue.exported declaration.withoutDocs)) ∧
      (∃ found : List (List Declared),
        (glue.declarations.map fun declaration =>
          declared? (declarationText glue.exported declaration.withoutDocs)) = found.map some ∧
        DescribesValues module found.flatten) ∧
      (config.IsTidy → (∀ text ∈ moduleDocTexts module, StaysInComment text) →
        ∃ found, declared? glue.text = some found ∧ DescribesValues module found) := by
  refine ⟨fun _ inside => Module.shows_declaration inside,
    ⟨glue.declarations.map Declaration.declared, ?_, ?_⟩, fun tidy docs => ⟨glue.declared, ?_, ?_⟩⟩
  · rw [List.map_map]
    refine List.map_congr_left fun declaration inside => ?_
    have legible := isLegible_declaration built emitted rendered inside
    exact (stands_declarationText glue.exported legible).leads.declared?_eq
  · rw [← List.flatMap_def]
    exact describesValues_of_emit built emitted rendered (List.Subset.refl _)
      (declaredTypeNames_declared glue).symm
  · exact declared?_text (isLegible_of_emit built emitted tidy rendered)
      (staysInComment_of_emit emitted docs)
  · refine describesValues_of_emit built emitted rendered ?_ rfl
    exact List.Subset.trans (List.subset_append_right _ _) (List.subset_append_left _ _)

/-- A tree, whose forks hold a struct that holds trees again. -/
def forestDraft : ModuleDraft :=
  ModuleDraft.empty "forest"
    |>.addType ⟨"Branches",
        .struct ⟨.ofList [("left", .declared "Tree"), ("right", .declared "Tree"),
          ("weight", .primitive .u64), ("bark", .primitive .buffer)], .structured⟩, none, none⟩
    |>.addType ⟨"Tree", .union ⟨"kind", "value",
        [⟨"leaf", none, none⟩, ⟨"fork", some (.ofList [("branches", .declared "Branches")]), none⟩]⟩,
        none, none⟩

/-- The module of that draft. -/
def forestModule : BindingModule :=
  ⟨"forest", forestDraft.options, ⟨forestDraft.types.toArray⟩, []⟩

/-- A fork of two leaves. -/
def fork : Json :=
  .object [("kind", .string "fork"), ("value", .object [("branches", .object [
    ("left", .object [("kind", .string "leaf")]), ("right", .object [("kind", .string "leaf")]),
    ("weight", .number default), ("bark", .array [.number default, .number default])])])]

/-- A value is followed through a union, a payload and a struct. -/
theorem emitted_types_describe_accepted_values_fork :
    forestDraft.build = .ok forestModule ∧
      validate forestModule.types (.declared "Tree") fork = .ok () ∧
      ∃ (glue : Module) (found : List (List Declared)) (all : List Declared),
        emit forestModule Config.default = .ok glue ∧
          (glue.declarations.map fun declaration =>
            declared? (declarationText glue.exported declaration.withoutDocs)) = found.map some ∧
          DescribesValues forestModule found.flatten ∧
          Inhabits found.flatten (.host (.declared "Tree")) fork ∧
          declared? glue.text = some all ∧ DescribesValues forestModule all := by
  have built : forestDraft.build = .ok forestModule := by decide
  have accepted : validate forestModule.types (.declared "Tree") fork = .ok () := by decide
  obtain ⟨glue, emitted⟩ := (exists_emit_eq_ok_iff built Config.default).mpr
    (BindingModule.faults_eq_nil_iff.mp (by decide))
  obtain ⟨-, ⟨found, read, describes⟩, together⟩ :=
    emitted_types_describe_accepted_values built emitted (by decide)
  have docs : ∀ text ∈ moduleDocTexts forestModule, StaysInComment text := by
    unfold StaysInComment
    decide
  obtain ⟨all, all_read, all_describes⟩ := together (isTidy_default true false) docs
  obtain ⟨tree, inside, named, structured⟩ : ∃ decl ∈ forestModule.types.toList,
    decl.name = "Tree" ∧ decl.isFixedLayout = false := by decide
  exact ⟨built, accepted, glue, found, all, emitted, read, describes,
    named ▸ describes.inhabits tree inside structured fork (named ▸ accepted), all_read,
    all_describes⟩

end Glue
end ForeignBindings
