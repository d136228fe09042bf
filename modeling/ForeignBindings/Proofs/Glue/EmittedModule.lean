import ForeignBindings.Proofs.Glue.Emittable

/-!
# Emitted modules can be read

The checks of a module give all that the reader of its text asks for, so the text of an emitted module
is read as what it was printed from: the names that the module binds for itself, two functions for
each packed type, one for each signature, and the interfaces with the types of their members.
-/

namespace ForeignBindings
namespace Glue

open Checks

variable {draft : ModuleDraft} {module : BindingModule} {config : Config} {glue : Module}

theorem Emittable.isLegible_fieldType (emittable : Emittable module) {type : TypeRef}
    {encoding : Encoding} {site : Site} {host : HostType}
    (found : module.types.fieldType type encoding site = .ok host) : IsLegibleType host := by
  obtain ⟨resolved, known, found⟩ := bind_eq_ok_iff.mp found
  obtain ⟨primitive, -, rfl⟩ | ⟨decl, inside, -, rfl⟩ := resolve_eq_ok emittable.ordered known
  · cases primitive <;> cases encoding <;> cases found <;> trivial
  · cases found
    exact emittable.isLegibleType inside

theorem memberTypes_eq_ok {types : DeclSet} {typeName : String} {path : String → String}
    {encoding : Encoding} {fields : Fields} {members : List (String × HostType)}
    (listed : memberTypes types typeName path encoding fields = .ok members) :
    members.map Prod.fst = fields.toList.map Prod.fst ∧
      ∀ member ∈ members, ∃ field ∈ fields.toList, member.1 = field.1 ∧
        types.fieldType field.2 encoding (.field typeName (path field.1)) = .ok member.2 := by
  constructor
  · refine map_eq_of_mapM_eq_ok (fun field _ member made => ?_) listed
    obtain ⟨type, -, made⟩ := bind_eq_ok_iff.mp made
    cases made
    rfl
  · intro member inside
    obtain ⟨field, held, made⟩ := exists_source_of_mapM_eq_ok listed inside
    obtain ⟨type, found, made⟩ := bind_eq_ok_iff.mp made
    cases made
    exact ⟨field, held, rfl, found⟩

theorem Emittable.isLegible_memberTypes (emittable : Emittable module) {typeName : String}
    {path : String → String} {encoding : Encoding} {fields : Fields}
    {members : List (String × HostType)}
    (listed : memberTypes module.types typeName path encoding fields = .ok members) :
    ∀ member ∈ members, IsLegibleType member.2 := by
  intro member inside
  obtain ⟨field, -, -, found⟩ := (memberTypes_eq_ok listed).2 member inside
  exact emittable.isLegible_fieldType found

/-- The interface of a struct has the name of the struct and a member for each field. -/
theorem structInterface_eq_ok {types : DeclSet} {decl : TypeDecl} {struct : StructDecl}
    {interface : Interface} (made : structInterface types decl struct = .ok interface) :
    ∃ members, memberTypes types decl.name id struct.encoding struct.fields = .ok members ∧
      interface.name = decl.name ∧
      interface.members = members.map fun member => (member.1, .host member.2) := by
  obtain ⟨members, listed, made⟩ := bind_eq_ok_iff.mp made
  cases made
  exact ⟨members, listed, rfl, rfl⟩

/-- The interface of a variant has the tag with the name of the variant and, exactly if the variant
has a payload, the content with a member for each field of the payload. -/
theorem variantInterface_eq_ok {types : DeclSet} {typeName : String} {union : UnionDecl}
    {variant : Variant} {interface : Interface}
    (made : variantInterface types typeName union variant = .ok interface) :
    interface.name = Name.variantTypeName typeName variant.name ∧
      ((variant.payload = none ∧ interface.members = [(union.tag, .literal variant.name)]) ∨
        ∃ fields members, variant.payload = some fields ∧
          memberTypes types typeName (fun field => variant.name ++ "." ++ field) .structured
            fields = .ok members ∧
          interface.members =
            [(union.tag, .literal variant.name), (union.content, .payload members)]) := by
  cases payload : variant.payload with
  | none =>
      rw [variantInterface, payload] at made
      cases made
      exact ⟨rfl, .inl ⟨rfl, rfl⟩⟩
  | some fields =>
      rw [variantInterface, payload] at made
      obtain ⟨members, listed, made⟩ := bind_eq_ok_iff.mp made
      cases made
      exact ⟨rfl, .inr ⟨fields, members, rfl, listed, rfl⟩⟩

theorem Emittable.isLegible_structInterface (emittable : Emittable module) {decl : TypeDecl}
    (inside : decl ∈ module.types.toList) {struct : StructDecl} {interface : Interface}
    (made : structInterface module.types decl struct = .ok interface) : interface.IsLegible := by
  obtain ⟨members, listed, name, shape⟩ := structInterface_eq_ok made
  refine ⟨name ▸ emittable.isIdentifier inside, ?_⟩
  rw [shape]
  intro member held
  obtain ⟨source, known, rfl⟩ := List.mem_map.mp held
  exact emittable.isLegible_memberTypes listed source known

theorem Emittable.isLegible_variantInterface (emittable : Emittable module) {decl : TypeDecl}
    (inside : decl ∈ module.types.toList) {union : UnionDecl} (kind : decl.kind = .union union)
    {variant : Variant} (held : variant ∈ union.variants) {interface : Interface}
    (made : variantInterface module.types decl.name union variant = .ok interface) :
    interface.IsLegible := by
  obtain ⟨name, shape⟩ := variantInterface_eq_ok made
  constructor
  · have named : Name.variantTypeName decl.name variant.name ∈ decl.interfaceNames := by
      rw [TypeDecl.interfaceNames, TypeDecl.variants, kind]
      exact List.mem_map_of_mem held
    rw [name]
    exact (emittable.wellFormed.interfaces _ (List.mem_flatMap.mpr ⟨decl, inside, named⟩)).1
  · obtain ⟨-, members⟩ | ⟨fields, members, -, listed, shape⟩ := shape
    · rw [members]
      exact List.forall_mem_singleton.mpr trivial
    · rw [shape]
      exact List.forall_mem_cons.mpr ⟨trivial,
        List.forall_mem_singleton.mpr (emittable.isLegible_memberTypes listed)⟩

/-- The declarations of a union are the interfaces of its variants and the name for all of them. -/
theorem unionDeclarations_eq_ok {types : DeclSet} {decl : TypeDecl} {union : UnionDecl}
    {own : List Declaration} (declares : unionDeclarations types decl union = .ok own) :
    ∃ interfaces,
      union.variants.mapM (variantInterface types decl.name union) = .ok interfaces ∧
      interfaces.map Interface.name =
        union.variants.map (fun variant => Name.variantTypeName decl.name variant.name) ∧
      own = interfaces.map .interface ++
        [.oneOf decl.name decl.docs
          (union.variants.map fun variant => Name.variantTypeName decl.name variant.name)] := by
  obtain ⟨interfaces, made, declares⟩ := bind_eq_ok_iff.mp declares
  have names := map_eq_of_mapM_eq_ok
    (fun _ _ _ shaped => (variantInterface_eq_ok shaped).1) made
  cases declares
  exact ⟨interfaces, made, names, names ▸ rfl⟩

/-- The names of the functions that pack and unpack values of a declared type. -/
def helperNames (decl : TypeDecl) : List String :=
  if decl.isFixedLayout then [Call.packName decl.name, Call.unpackName decl.name] else []

/-- Whether declarations can be read and declare what belongs to a type. -/
structure Describes (decl : TypeDecl) (values types : List String)
    (own : List Declaration) : Prop where
  /-- Every declaration can be read. -/
  legible : ∀ declaration ∈ own, declaration.IsLegible
  /-- These values are declared. -/
  values : valueNames (own.flatMap Declaration.declared) = values
  /-- These types are declared. -/
  types : declaredTypeNames (own.flatMap Declaration.declared) = types

theorem Emittable.describes_typeDeclarations (emittable : Emittable module) {decl : TypeDecl}
    (inside : decl ∈ module.types.toList) (rendered : decl.hostText = none)
    {own : List Declaration} (declares : typeDeclarations module.types decl = .ok own) :
    Describes decl [] (decl.interfaceNames ++ [decl.name]) own := by
  rw [typeDeclarations, rendered] at declares
  cases kind : decl.kind with
  | struct struct =>
      rw [kind] at declares
      obtain ⟨interface, made, declares⟩ := bind_eq_ok_iff.mp declares
      cases declares
      obtain ⟨-, -, name, -⟩ := structInterface_eq_ok made
      refine ⟨List.forall_mem_singleton.mpr (emittable.isLegible_structInterface inside made), rfl,
        ?_⟩
      rw [TypeDecl.interfaceNames, TypeDecl.variants, kind, ← name]
      rfl
  | union union =>
      rw [kind] at declares
      obtain ⟨interfaces, made, names, rfl⟩ := unionDeclarations_eq_ok declares
      have interfaceNames : decl.interfaceNames =
          union.variants.map fun variant => Name.variantTypeName decl.name variant.name := by
        rw [TypeDecl.interfaceNames, TypeDecl.variants, kind]
      have wellFormed := (emittable.wellFormed.types decl inside).union union kind
      refine ⟨?_, ?_, ?_⟩
      · rw [List.forall_mem_append, List.forall_mem_map, List.forall_mem_singleton]
        refine ⟨fun interface held => ?_, emittable.isIdentifier inside, ?_, ?_⟩
        · obtain ⟨variant, known, shaped⟩ := exists_source_of_mapM_eq_ok made held
          exact emittable.isLegible_variantInterface inside kind known shaped
        · exact fun none => wellFormed.inhabited (List.map_eq_nil_iff.mp none)
        · intro alternative held
          rw [← interfaceNames] at held
          exact (emittable.wellFormed.interfaces _
            (List.mem_flatMap.mpr ⟨decl, inside, held⟩)).1
      · simp [valueNames, Declaration.declared, Declared.valueName?, List.flatMap_map,
          List.filterMap_flatMap]
      · rw [interfaceNames, ← names]
        simp only [declaredTypeNames, Declaration.declared, Declared.typeName?, List.flatMap_append,
          List.flatMap_map, ← List.map_eq_flatMap, List.filterMap_append, List.filterMap_map,
          List.flatMap_singleton]
        exact congrArg (· ++ [decl.name]) (congrFun List.filterMap_eq_map interfaces)

theorem Emittable.describes_codecDeclarations (emittable : Emittable module) {decl : TypeDecl}
    (inside : decl ∈ module.types.toList) {order : ByteOrder}
    {own : List Declaration} (declares : codecDeclarations order decl = .ok own) :
    Describes decl (helperNames decl) [] own := by
  rw [codecDeclarations] at declares
  split at declares
  case h_1 fields kind =>
    obtain ⟨layout, placed⟩ := (Layout.exists_ofFields_iff decl.name).mpr
      ((emittable.wellFormed.types decl inside).packed_scalars fields kind)
    have fixed : decl.isFixedLayout = true := by rw [TypeDecl.isFixedLayout, kind]
    rw [placed] at declares
    cases declares
    refine ⟨List.forall_mem_singleton.mpr (emittable.isIdentifier inside), ?_, rfl⟩
    rw [helperNames, if_pos fixed]
    rfl
  case h_2 other =>
    have structured : decl.isFixedLayout = false := by
      rw [TypeDecl.isFixedLayout]
      split
      case h_1 fields kind => exact absurd kind (other fields)
      case h_2 => rfl
    cases declares
    refine ⟨List.forall_mem_nil _, ?_, rfl⟩
    rw [helperNames, structured]
    rfl

theorem Emittable.describes_declarations (emittable : Emittable module) {decl : TypeDecl}
    (inside : decl ∈ module.types.toList) (rendered : decl.hostText = none) {order : ByteOrder}
    {own : List Declaration} (declares : declarations module.types order decl = .ok own) :
    Describes decl (helperNames decl) (decl.interfaceNames ++ [decl.name]) own := by
  obtain ⟨types, typed, declares⟩ := bind_eq_ok_iff.mp declares
  obtain ⟨codecs, packed, declares⟩ := bind_eq_ok_iff.mp declares
  cases declares
  have first := emittable.describes_typeDeclarations inside rendered typed
  have second := emittable.describes_codecDeclarations inside packed
  refine ⟨List.forall_mem_append.mpr ⟨first.legible, second.legible⟩, ?_, ?_⟩
  · rw [List.flatMap_append, valueNames, List.filterMap_append, ← valueNames, ← valueNames,
      first.values, second.values, List.nil_append]
  · rw [List.flatMap_append, declaredTypeNames, List.filterMap_append, ← declaredTypeNames,
      ← declaredTypeNames, first.types, second.types, List.append_nil]

/-- Whether the parts of a module that a configuration gives as they are stay where they belong: the
first lines are remarks, and the keys of platforms do not break their lines. -/
structure Config.IsTidy (config : Config) : Prop where
  /-- The banner is a remark. -/
  banner : IsRemark config.banner
  /-- The keys of platforms and architectures stay on their lines. -/
  platforms : ∀ platform ∈ config.platforms, Text.StaysOnLine platform.os.toList ∧
    ∀ arch ∈ platform.arches, Text.StaysOnLine arch.1.toList

/-- The default configuration is tidy, whether or not declarations are exported and the library is
loaded at import time. -/
theorem isTidy_default (exported lazyInit : Bool) :
    Config.IsTidy { Config.default with exported := exported, lazyInit := lazyInit } where
  banner := by
    have remark : Text.StaysOnLine Config.defaultBanner.toList ∧ (Config.defaultBanner = "" ∨
        "//".toList <+: Config.defaultBanner.toList) := by decide
    exact ⟨[Config.defaultBanner], rfl, List.forall_mem_singleton.mpr remark⟩
  platforms := by
    have stay : ∀ platform ∈ Platform.known, Text.StaysOnLine platform.os.toList ∧
        ∀ arch ∈ platform.arches, Text.StaysOnLine arch.1.toList := by decide
    exact stay

theorem staysOnLine_locate {platforms : List Platform}
    (stay : ∀ platform ∈ platforms, Text.StaysOnLine platform.os.toList ∧
      ∀ arch ∈ platform.arches, Text.StaysOnLine arch.1.toList)
    (package : String) (location : LibraryLocation) (profile : Profile) :
    LocatedLibrary.StaysOnLine (locate platforms package location profile) := by
  intro entry inside
  obtain ⟨platform, known, rfl⟩ := List.mem_map.mp inside
  obtain ⟨os, arches⟩ := stay platform known
  refine ⟨os, ?_⟩
  simp only [Platform.fileNames]
  split
  · intro file held
    obtain ⟨arch, listed, rfl⟩ := List.mem_map.mp held
    exact arches arch listed
  · trivial

/-- All but the declarations of types can be read in the text of an emitted module. -/
theorem isLegible_with_declarations (built : draft.build = .ok module)
    (emitted : emit module config = .ok glue) (tidy : config.IsTidy)
    {declarations : List Declaration} (legible : ∀ declaration ∈ declarations, declaration.IsLegible) :
    Module.IsLegible { glue with declarations := declarations } := by
  have emittable := emittable_of_emit built emitted
  obtain ⟨plans, declared, planned, -, rfl⟩ := emit_eq_ok emitted
  refine ⟨tidy.banner, staysOnLine_locate tidy.platforms _ _ _, legible, ?_⟩
  intro wrapper inside
  obtain ⟨plan, held, rfl⟩ := List.mem_map.mp inside
  obtain ⟨signature, known, own_planned⟩ := exists_source_of_mapM_eq_ok planned held
  exact (emittable.isLegible_wrapper known own_planned).1

/-- The declarations of an emitted module are those of its types. -/
theorem exists_declarations_of_mem (emitted : emit module config = .ok glue)
    {declaration : Declaration} (inside : declaration ∈ glue.declarations) :
    ∃ decl ∈ module.types.toList, ∃ own,
      declarations module.types module.options.byteOrder decl = .ok own ∧ declaration ∈ own := by
  obtain ⟨plans, declared, -, declares, rfl⟩ := emit_eq_ok emitted
  obtain ⟨own, held, inside⟩ := List.mem_flatten.mp inside
  obtain ⟨decl, known, own_declared⟩ := exists_source_of_mapM_eq_ok declares held
  exact ⟨decl, known, own, own_declared, inside⟩

/-- The declarations of an emitted module without precomputed parts can be read. -/
theorem isLegible_declaration (built : draft.build = .ok module)
    (emitted : emit module config = .ok glue)
    (rendered : ∀ decl ∈ module.types.toList, decl.hostText = none) {declaration : Declaration}
    (inside : declaration ∈ glue.declarations) : declaration.IsLegible := by
  obtain ⟨decl, known, own, declares, held⟩ := exists_declarations_of_mem emitted inside
  exact ((emittable_of_emit built emitted).describes_declarations known (rendered decl known)
    declares).legible declaration held

/-- So can the text of the whole module. -/
theorem isLegible_of_emit (built : draft.build = .ok module)
    (emitted : emit module config = .ok glue) (tidy : config.IsTidy)
    (rendered : ∀ decl ∈ module.types.toList, decl.hostText = none) : glue.IsLegible :=
  isLegible_with_declarations built emitted tidy fun _ inside =>
    isLegible_declaration built emitted rendered inside

/-- The documentation texts of a type and of its variants. -/
def typeDocTexts (decl : TypeDecl) : List (Option String) :=
  decl.docs :: decl.variants.map Variant.docs

/-- The documentation texts of a module. -/
def moduleDocTexts (module : BindingModule) : List (Option String) :=
  module.types.toList.flatMap typeDocTexts ++ module.signatures.map Signature.docs

theorem docs_of_variantInterface {types : DeclSet} {typeName : String} {union : UnionDecl}
    {variant : Variant} {interface : Interface}
    (made : variantInterface types typeName union variant = .ok interface) :
    interface.docs = variant.docs := by
  rw [variantInterface] at made
  split at made
  case h_1 =>
    cases made
    rfl
  case h_2 =>
    obtain ⟨members, -, made⟩ := bind_eq_ok_iff.mp made
    cases made
    rfl

theorem docs_of_typeDeclarations {types : DeclSet} {decl : TypeDecl} {own : List Declaration}
    (declares : typeDeclarations types decl = .ok own) :
    ∀ declaration ∈ own, declaration.docs ∈ typeDocTexts decl := by
  have inner : decl.docs ∈ typeDocTexts decl := List.mem_cons_self
  rw [typeDeclarations] at declares
  split at declares
  case h_1 =>
    cases declares
    exact List.forall_mem_singleton.mpr inner
  case h_2 =>
    obtain ⟨interface, made, declares⟩ := bind_eq_ok_iff.mp declares
    obtain ⟨members, -, made⟩ := bind_eq_ok_iff.mp made
    cases made
    cases declares
    exact List.forall_mem_singleton.mpr inner
  case h_3 union _ kind =>
    obtain ⟨interfaces, made, -, rfl⟩ := unionDeclarations_eq_ok declares
    rw [List.forall_mem_append, List.forall_mem_map, List.forall_mem_singleton]
    refine ⟨fun interface held => ?_, inner⟩
    obtain ⟨variant, known, shaped⟩ := exists_source_of_mapM_eq_ok made held
    rw [typeDocTexts, TypeDecl.variants, kind, Declaration.docs, docs_of_variantInterface shaped]
    exact List.mem_cons_of_mem _ (List.mem_map_of_mem known)

theorem docs_of_codecDeclarations {order : ByteOrder} {decl : TypeDecl} {own : List Declaration}
    (declares : codecDeclarations order decl = .ok own) :
    ∀ declaration ∈ own, declaration.docs = none := by
  rw [codecDeclarations] at declares
  split at declares
  case h_1 =>
    split at declares
    case h_1 =>
      cases declares
      exact List.forall_mem_singleton.mpr rfl
    case h_2 => cases declares
  case h_2 =>
    cases declares
    exact List.forall_mem_nil _

/-- The documentation of an emitted module is that of the types, variants and functions. -/
theorem docTexts_of_emit (emitted : emit module config = .ok glue) :
    ∀ text ∈ glue.docTexts, text = none ∨ text ∈ moduleDocTexts module := by
  rw [Module.docTexts, List.forall_mem_append, List.forall_mem_map, List.forall_mem_map]
  constructor
  · intro declaration inside
    obtain ⟨decl, known, own, declares, held⟩ := exists_declarations_of_mem emitted inside
    obtain ⟨types, typed, declares⟩ := bind_eq_ok_iff.mp declares
    obtain ⟨codecs, packed, declares⟩ := bind_eq_ok_iff.mp declares
    cases declares
    obtain held | held := List.mem_append.mp held
    · exact .inr (List.mem_append_left _ (List.mem_flatMap.mpr
        ⟨decl, known, docs_of_typeDeclarations typed declaration held⟩))
    · exact .inl (docs_of_codecDeclarations packed declaration held)
  · intro wrapper inside
    obtain ⟨plans, declared, planned, -, rfl⟩ := emit_eq_ok emitted
    obtain ⟨plan, held, rfl⟩ := List.mem_map.mp inside
    obtain ⟨signature, known, made⟩ := exists_source_of_mapM_eq_ok planned held
    obtain ⟨params, -, made⟩ := bind_eq_ok_iff.mp made
    obtain ⟨result, -, made⟩ := bind_eq_ok_iff.mp made
    cases made
    exact .inr (List.mem_append_right _ (List.mem_map_of_mem known))

/-- The comments of an emitted module end with their own last lines if no documentation text of a
type, a variant or a function holds the end of a comment. -/
theorem staysInComment_of_emit (emitted : emit module config = .ok glue)
    (docs : ∀ text ∈ moduleDocTexts module, StaysInComment text) :
    ∀ text ∈ glue.docTexts, StaysInComment text := by
  intro text inside
  obtain rfl | known := docTexts_of_emit emitted text inside
  · exact staysInComment_none
  · exact docs text known

/-- Whether a declaration is text that was precomputed. -/
def Declaration.isVerbatim : Declaration → Bool
  | .verbatim _ _ => true
  | .interface _ | .oneOf _ _ _ | .codec _ => false

/-- A module without the text that was precomputed for its types. -/
def Module.withoutHostText (glue : Module) : Module :=
  { glue with declarations := glue.declarations.filter fun declaration => !declaration.isVerbatim }

/-- Precomputed text is not looked into, so nothing is missing without it. -/
theorem declared_withoutHostText (glue : Module) : glue.withoutHostText.declared = glue.declared := by
  have same (declarations : List Declaration) :
      (declarations.filter fun declaration => !declaration.isVerbatim).flatMap Declaration.declared =
        declarations.flatMap Declaration.declared := by
    induction declarations with
    | nil => rfl
    | cons declaration declarations induction =>
        cases declaration with
        | verbatim docs text => exact induction
        | interface | oneOf | codec => exact congrArg (_ ++ ·) induction
  exact congrArg (_ ++ · ++ _) (same glue.declarations)

theorem docTexts_withoutHostText_subset (glue : Module) :
    glue.withoutHostText.docTexts ⊆ glue.docTexts := by
  rw [Module.docTexts, Module.docTexts]
  refine List.append_subset.mpr ⟨List.Subset.trans (List.map_subset _ ?_)
    (List.subset_append_left _ _), List.subset_append_right _ _⟩
  exact List.filter_subset_self _

/-- The text of every emitted module can be read but for the parts that were precomputed. -/
theorem isLegible_withoutHostText (built : draft.build = .ok module)
    (emitted : emit module config = .ok glue) (tidy : config.IsTidy) :
    glue.withoutHostText.IsLegible := by
  refine isLegible_with_declarations built emitted tidy fun declaration inside => ?_
  obtain ⟨inside, rendered⟩ := List.mem_filter.mp inside
  obtain ⟨decl, known, own, declares, held⟩ := exists_declarations_of_mem emitted inside
  have emittable := emittable_of_emit built emitted
  cases text : decl.hostText with
  | none => exact (emittable.describes_declarations known text declares).legible declaration held
  | some text' =>
      obtain ⟨types, typed, declares⟩ := bind_eq_ok_iff.mp declares
      obtain ⟨codecs, packed, declares⟩ := bind_eq_ok_iff.mp declares
      rw [typeDeclarations, text] at typed
      cases typed
      cases declares
      obtain rfl | held := List.mem_cons.mp held
      · cases rendered
      · exact (emittable.describes_codecDeclarations known packed).legible declaration held

theorem filterMap_declared (select : Declared → Option String) (declared : List (List Declaration)) :
    (declared.flatten.flatMap Declaration.declared).filterMap select =
      (declared.map fun own => (own.flatMap Declaration.declared).filterMap select).flatten := by
  induction declared with
  | nil => rfl
  | cons own declared induction =>
      rw [List.flatten_cons, List.flatMap_append, List.filterMap_append, induction, List.map_cons,
        List.flatten_cons]

theorem valueNames_declared (glue : Module) :
    valueNames glue.declared = glue.ownBindings ++
      valueNames (glue.declarations.flatMap Declaration.declared) ++
        glue.wrappers.map Wrapper.name := by
  have own : (glue.ownBindings.map Declared.value).filterMap Declared.valueName? =
      glue.ownBindings := by
    rw [List.filterMap_map]
    exact List.filterMap_some
  have wrappers : (glue.wrappers.map fun wrapper => Declared.value wrapper.name).filterMap
      Declared.valueName? = glue.wrappers.map Wrapper.name := by
    rw [List.filterMap_map]
    exact congrFun List.filterMap_eq_map glue.wrappers
  rw [Module.declared, valueNames, List.filterMap_append, List.filterMap_append, own, wrappers,
    ← valueNames]

theorem declaredTypeNames_declared (glue : Module) :
    declaredTypeNames glue.declared =
      declaredTypeNames (glue.declarations.flatMap Declaration.declared) := by
  have values {α : Type} (items : List α) (name : α → String) :
      (items.map fun item => Declared.value (name item)).filterMap Declared.typeName? = [] := by
    rw [List.filterMap_map]
    exact List.filterMap_eq_nil_iff.mpr fun _ _ => rfl
  have own : (glue.ownBindings.map Declared.value).filterMap Declared.typeName? = [] :=
    values glue.ownBindings id
  rw [Module.declared, declaredTypeNames, List.filterMap_append, List.filterMap_append, own,
    values, List.nil_append, List.append_nil, ← declaredTypeNames]

/-- The values that the declarations of a type declare, whether or not its text was precomputed. -/
theorem Emittable.values_declarations (emittable : Emittable module) {decl : TypeDecl}
    (inside : decl ∈ module.types.toList) {order : ByteOrder} {own : List Declaration}
    (declares : declarations module.types order decl = .ok own) :
    valueNames (own.flatMap Declaration.declared) = helperNames decl := by
  cases rendered : decl.hostText with
  | none => exact (emittable.describes_declarations inside rendered declares).values
  | some text =>
      obtain ⟨types, typed, declares⟩ := bind_eq_ok_iff.mp declares
      obtain ⟨codecs, packed, declares⟩ := bind_eq_ok_iff.mp declares
      rw [typeDeclarations, rendered] at typed
      cases typed
      cases declares
      exact (emittable.describes_codecDeclarations inside packed).values

/-- The names of values that an emitted module declares. -/
theorem values_of_emit (built : draft.build = .ok module)
    (emitted : emit module config = .ok glue) :
    valueNames glue.declared = glue.ownBindings ++ module.types.toList.flatMap helperNames ++
      module.signatures.map Signature.name := by
  have emittable := emittable_of_emit built emitted
  obtain ⟨plans, declared, planned, declares, rfl⟩ := emit_eq_ok emitted
  have values := map_eq_of_mapM_eq_ok
    (fun decl known own own_declared => emittable.values_declarations known own_declared) declares
  have wrappers : (plans.map fun plan => plan.wrapper.name) = module.signatures.map Signature.name :=
    map_eq_of_mapM_eq_ok (fun signature known plan own_planned =>
      (emittable.isLegible_wrapper known own_planned).2) planned
  rw [valueNames_declared, valueNames, filterMap_declared]
  refine congr (congrArg _ (congrArg _ (congrArg List.flatten values))) ?_
  rw [List.map_map]
  exact wrappers

/-- The names of values and of types that an emitted module without precomputed parts declares. -/
theorem names_of_emit (built : draft.build = .ok module)
    (emitted : emit module config = .ok glue)
    (rendered : ∀ decl ∈ module.types.toList, decl.hostText = none) :
    valueNames glue.declared = glue.ownBindings ++ module.types.toList.flatMap helperNames ++
        module.signatures.map Signature.name ∧
      declaredTypeNames glue.declared =
        module.types.toList.flatMap fun decl => decl.interfaceNames ++ [decl.name] := by
  refine ⟨values_of_emit built emitted, ?_⟩
  have emittable := emittable_of_emit built emitted
  obtain ⟨plans, declared, -, declares, rfl⟩ := emit_eq_ok emitted
  have types := map_eq_of_mapM_eq_ok
    (fun decl known own own_declared =>
      (emittable.describes_declarations known (rendered decl known) own_declared).types) declares
  rw [declaredTypeNames_declared, declaredTypeNames, filterMap_declared]
  exact congrArg List.flatten types

end Glue
end ForeignBindings
