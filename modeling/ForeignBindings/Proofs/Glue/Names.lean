import ForeignBindings.Proofs.Glue.EmittedModule

/-!
# Names of emitted modules

The names at module scope come from the functions and types of a library, from the variants of its
unions, from the helper functions of packed types and from the module itself.  Read from the text of
an emitted module, no two of them clash, each stands there once, and none of the names that a library
brings hides one that the module imports, declares for itself or takes from the host.
-/

namespace ForeignBindings
namespace Glue

/-- The values and types of the host that emitted code refers to. -/
def hostGlobals : List String :=
  ["Deno", "URL", "JSON", "Promise", "TextEncoder", "TextDecoder", "DataView", "Uint8Array"]

/-- Whether the declarations of a text name everything of a module once and keep its names apart from
those that the text declares for itself and from those of the host. -/
structure Unambiguous (module : BindingModule) (own : List String) (found : List Declared) :
    Prop where
  /-- The values are those of the text itself, the helpers of packed types and the functions. -/
  values : valueNames found =
    own ++ module.types.toList.flatMap helperNames ++ module.signatures.map Signature.name
  /-- No two values share a name. -/
  values_distinct : (valueNames found).Nodup
  /-- Every function is declared once. -/
  functions_once : ∀ signature ∈ module.signatures, (valueNames found).count signature.name = 1
  /-- Every packed type has one function that packs and one that unpacks its values. -/
  helpers_once : ∀ decl ∈ module.types.toList, decl.isFixedLayout = true →
    (valueNames found).count (Call.packName decl.name) = 1 ∧
      (valueNames found).count (Call.unpackName decl.name) = 1
  /-- The types are those of the module with the interfaces of their variants. -/
  types : declaredTypeNames found =
    module.types.toList.flatMap fun decl => decl.interfaceNames ++ [decl.name]
  /-- No two types share a name. -/
  types_distinct : (declaredTypeNames found).Nodup
  /-- Every type and every interface of a variant is declared once. -/
  types_once : ∀ decl ∈ module.types.toList, (declaredTypeNames found).count decl.name = 1 ∧
    ∀ name ∈ decl.interfaceNames, (declaredTypeNames found).count name = 1
  /-- The names of the module hide nothing that the text relies on. -/
  apart : ∀ name ∈ module.declaredNames,
    name ∉ own ∧ name ∉ preambleBindings ∧ name ∉ hostGlobals

variable {draft : ModuleDraft} {module : BindingModule} {config : Config} {glue : Module}

theorem ownBindings_nodup (glue : Module) : glue.ownBindings.Nodup := by
  rcases helpers : glue.helpers with ⟨encode, decode, readPointer⟩
  rw [Module.ownBindings, helpers]
  cases glue.lazyInit <;> cases encode <;> cases decode <;> cases readPointer <;> decide

theorem ownBindings_subset (glue : Module) : glue.ownBindings ⊆ preambleBindings := by
  rcases helpers : glue.helpers with ⟨encode, decode, readPointer⟩
  rw [Module.ownBindings, helpers]
  cases glue.lazyInit <;> cases encode <;> cases decode <;> cases readPointer <;> decide

theorem cases_of_mem_helperNames {decl : TypeDecl} {name : String}
    (helper : name ∈ helperNames decl) :
    name = Call.packName decl.name ∨ name = Call.unpackName decl.name := by
  rw [helperNames] at helper
  split at helper
  · simpa using helper
  · cases helper

theorem shadows_of_mem_helperNames {decl : TypeDecl} {name : String}
    (helper : name ∈ helperNames decl) :
    "__pack_".toList <+: name.toList ∨ "__unpack_".toList <+: name.toList := by
  obtain rfl | rfl := cases_of_mem_helperNames helper
  · rw [Call.packName, String.toList_append]
    exact .inl (List.prefix_append _ _)
  · rw [Call.unpackName, String.toList_append]
    exact .inr (List.prefix_append _ _)

theorem not_mem_preambleBindings_of_helper {name : String}
    (helper : "__pack_".toList <+: name.toList ∨ "__unpack_".toList <+: name.toList) :
    name ∉ preambleBindings := by
  have apart : ∀ bound ∈ preambleBindings,
      ¬("__pack_".toList <+: bound.toList ∨ "__unpack_".toList <+: bound.toList) := by decide
  exact fun bound => apart name bound helper

theorem packName_ne_unpackName (typeName other : String) :
    Call.packName typeName ≠ Call.unpackName other := by
  intro same
  have spelled := congrArg String.toList same
  rw [Call.packName, Call.unpackName, String.toList_append, String.toList_append] at spelled
  have third := congrArg (·[2]?) spelled
  cases third

theorem append_right_injective (start : String) {name other : String}
    (same : start ++ name = start ++ other) : name = other := by
  have spelled := congrArg String.toList same
  rw [String.toList_append, String.toList_append] at spelled
  exact String.toList_inj.mp (List.append_cancel_left spelled)

/-- The name of a helper tells the type that the helper is for. -/
theorem eq_of_mem_helperNames {decl other : TypeDecl} {name : String}
    (helper : name ∈ helperNames decl) (same : name ∈ helperNames other) :
    decl.name = other.name := by
  obtain packs | unpacks := cases_of_mem_helperNames helper
  · obtain same | same := cases_of_mem_helperNames same
    · exact append_right_injective "__pack_" (packs.symm.trans same)
    · exact absurd (packs.symm.trans same) (packName_ne_unpackName _ _)
  · obtain same | same := cases_of_mem_helperNames same
    · exact absurd (same.symm.trans unpacks) (packName_ne_unpackName _ _)
    · exact append_right_injective "__unpack_" (unpacks.symm.trans same)

theorem helperNames_nodup (decl : TypeDecl) : (helperNames decl).Nodup := by
  rw [helperNames]
  split
  · exact List.nodup_cons.mpr ⟨fun inside => packName_ne_unpackName _ _
      (List.mem_singleton.mp inside), List.nodup_singleton _⟩
  · exact List.nodup_nil

theorem Emittable.helpers_nodup (emittable : Emittable module) :
    (module.types.toList.flatMap helperNames).Nodup := by
  have distinct := List.pairwise_map.mp emittable.wellFormed.types_distinct
  exact List.nodup_flatMap.mpr ⟨fun decl _ => helperNames_nodup decl,
    distinct.imp fun other name helper same => other (eq_of_mem_helperNames helper same)⟩

/-- No two values of a module share a name. -/
theorem Emittable.values_nodup (emittable : Emittable module) (glue : Module) :
    (glue.ownBindings ++ module.types.toList.flatMap helperNames ++
      module.signatures.map Signature.name).Nodup := by
  have helper {name : String} (inside : name ∈ module.types.toList.flatMap helperNames) :
      "__pack_".toList <+: name.toList ∨ "__unpack_".toList <+: name.toList := by
    obtain ⟨decl, -, held⟩ := List.mem_flatMap.mp inside
    exact shadows_of_mem_helperNames held
  have function {name : String} (inside : name ∈ module.signatures.map Signature.name) :
      ¬Shadows name := by
    obtain ⟨signature, held, rfl⟩ := List.mem_map.mp inside
    exact emittable.resolved.functions signature held
  refine (List.nodup_append'.mpr ⟨List.nodup_append'.mpr ⟨ownBindings_nodup glue,
    emittable.helpers_nodup, ?_⟩, emittable.wellFormed.functions_distinct, ?_⟩)
  · exact fun name own inside =>
      not_mem_preambleBindings_of_helper (helper inside) (ownBindings_subset glue own)
  · intro name inside called
    obtain own | inside := List.mem_append.mp inside
    · exact function called (.inl (ownBindings_subset glue own))
    · exact function called (.inr (helper inside))

/-- A packed type has one function that packs and one that unpacks its values. -/
theorem Emittable.count_helpers (emittable : Emittable module) {found : List Declared}
    (values : valueNames found = glue.ownBindings ++ module.types.toList.flatMap helperNames ++
      module.signatures.map Signature.name)
    {decl : TypeDecl} (inside : decl ∈ module.types.toList) (fixed : decl.isFixedLayout = true) :
    (valueNames found).count (Call.packName decl.name) = 1 ∧
      (valueNames found).count (Call.unpackName decl.name) = 1 := by
  have helpers : helperNames decl = [Call.packName decl.name, Call.unpackName decl.name] :=
    if_pos fixed
  have once {name : String} (helper : name ∈ helperNames decl) :
      (valueNames found).count name = 1 := by
    rw [values]
    exact List.count_eq_one_of_mem (emittable.values_nodup glue) (List.mem_append_left _
      (List.mem_append_right _ (List.mem_flatMap.mpr ⟨decl, inside, helper⟩)))
  exact ⟨once (helpers ▸ List.mem_cons_self),
    once (helpers ▸ List.mem_cons_of_mem _ List.mem_cons_self)⟩

/-- No two types of a module, the interfaces of variants among them, share a name. -/
theorem Emittable.types_nodup (emittable : Emittable module) :
    (module.types.toList.flatMap fun decl => decl.interfaceNames ++ [decl.name]).Nodup := by
  have interfaces := List.nodup_flatMap.mp emittable.wellFormed.interfaces_distinct
  have names := List.pairwise_map.mp emittable.wellFormed.types_distinct
  have apart {decl other : TypeDecl} (inside : decl ∈ module.types.toList)
      (known : other ∈ module.types.toList) : other.name ∉ decl.interfaceNames := fun held =>
    (emittable.wellFormed.interfaces _ (List.mem_flatMap.mpr ⟨decl, inside, held⟩)).2
      (List.mem_map_of_mem known)
  refine List.nodup_flatMap.mpr ⟨fun decl inside => ?_, ?_⟩
  · refine List.nodup_append'.mpr ⟨interfaces.1 decl inside, List.nodup_singleton _, ?_⟩
    exact List.disjoint_singleton.mpr (apart inside inside)
  · refine ((interfaces.2.and names).imp_of_mem fun inside known both => ?_)
    obtain ⟨disjoint, other⟩ := both
    intro name held shared
    rw [List.mem_append, List.mem_singleton] at held shared
    obtain held | rfl := held
    · obtain shared | rfl := shared
      · exact disjoint held shared
      · exact apart inside known held
    · obtain shared | same := shared
      · exact apart known inside shared
      · exact other same

theorem not_shadows_of_mem_declaredNames (resolved : module.WellResolved) {name : String}
    (declared : name ∈ module.declaredNames) : ¬Shadows name := by
  rw [BindingModule.declaredNames, List.mem_append, List.mem_map, List.mem_flatMap] at declared
  rcases declared with ⟨signature, inside, rfl⟩ | ⟨decl, inside, own⟩
  · exact resolved.functions signature inside
  · obtain rfl | interface := List.mem_cons.mp own
    · exact resolved.types decl inside
    · exact resolved.interfaces decl inside name interface

/-- The values and the types that a module asks for share no names, so nothing that declares just
these is ambiguous. -/
theorem Emittable.unambiguous (emittable : Emittable module) {found : List Declared}
    (values : valueNames found = glue.ownBindings ++ module.types.toList.flatMap helperNames ++
      module.signatures.map Signature.name)
    (types : declaredTypeNames found =
      module.types.toList.flatMap fun decl => decl.interfaceNames ++ [decl.name]) :
    Unambiguous module glue.ownBindings found := by
  have values_nodup := emittable.values_nodup glue
  have types_nodup := emittable.types_nodup
  have once {decl : TypeDecl} (inside : decl ∈ module.types.toList) {name : String}
      (own : name ∈ decl.interfaceNames ++ [decl.name]) : (declaredTypeNames found).count name = 1 := by
    rw [types]
    exact List.count_eq_one_of_mem types_nodup (List.mem_flatMap.mpr ⟨decl, inside, own⟩)
  refine ⟨values, values ▸ values_nodup, ?_, fun decl => emittable.count_helpers values, types,
    types ▸ types_nodup, ?_, ?_⟩
  · intro signature inside
    rw [values]
    exact List.count_eq_one_of_mem values_nodup
      (List.mem_append_right _ (List.mem_map_of_mem inside))
  · intro decl inside
    exact ⟨once inside (List.mem_append_right _ List.mem_cons_self),
      fun name own => once inside (List.mem_append_left _ own)⟩
  · intro name declared
    have free := not_shadows_of_mem_declaredNames emittable.resolved declared
    have globals : hostGlobals ⊆ preambleBindings := by decide
    exact ⟨fun own => free (.inl (ownBindings_subset glue own)), fun bound => free (.inl bound),
      fun global => free (.inl (globals global))⟩

/-- Read from the text of an emitted module, the names of its values are pairwise distinct and so are
those of its types, every function, every helper of a packed type, every type and every interface of
a variant is declared there once, and no name of the library hides an import, a name that the module
declares for itself or a global of the host.  The text is read without documentation, and with it if
no documentation text ends its comment. -/
theorem emitted_names_are_unambiguous (built : draft.build = .ok module)
    (emitted : emit module config = .ok glue) (tidy : config.IsTidy)
    (rendered : ∀ decl ∈ module.types.toList, decl.hostText = none) :
    ∃ found, Unambiguous module glue.ownBindings found ∧
      declared? glue.withoutDocs.text = some found ∧
      ((∀ text ∈ moduleDocTexts module, StaysInComment text) →
        declared? glue.text = some found) := by
  obtain ⟨values, types⟩ := names_of_emit built emitted rendered
  have legible := isLegible_of_emit built emitted tidy rendered
  exact ⟨glue.declared, (emittable_of_emit built emitted).unambiguous values types,
    declared?_text_withoutDocs legible,
    fun docs => declared?_text legible (staysInComment_of_emit emitted docs)⟩

/-- A packed struct, a union of a variant with a payload and one without, and a function of both. -/
def figureDraft : ModuleDraft :=
  ModuleDraft.empty "figures"
    |>.addType ⟨"Point", .struct ⟨.ofList [("x", .primitive .f64)], .fixed⟩, none, none⟩
    |>.addType ⟨"Figure", .union ⟨"kind", "value",
        [⟨"circle", some (.ofList [("center", .primitive .str)]), none⟩, ⟨"nothing", none, none⟩]⟩,
        some "A figure of the plane.", none⟩
    |>.addSignature ⟨"area", [.declared "Figure", .declared "Point"], .primitive .f64, false, none⟩

/-- The module of that draft. -/
def figureModule : BindingModule :=
  ⟨"figures", figureDraft.options, ⟨figureDraft.types.reverse.toArray⟩, figureDraft.signatures⟩

/-- Both kinds of names are read from the text in the order of their declarations. -/
theorem emitted_names_are_unambiguous_figureModule :
    figureDraft.build = .ok figureModule ∧
      ∃ glue found,
        emit figureModule { Config.default with lazyInit := true } = .ok glue ∧
        Unambiguous figureModule glue.ownBindings found ∧ declared? glue.text = some found ∧
        ["__pack_Point", "__unpack_Point", "area"] <:+ valueNames found ∧
        declaredTypeNames found = ["FigureCircle", "FigureNothing", "Figure", "Point"] := by
  have built : figureDraft.build = .ok figureModule := by decide
  obtain ⟨glue, emitted⟩ :=
    (exists_emit_eq_ok_iff built { Config.default with lazyInit := true }).mpr
      (BindingModule.faults_eq_nil_iff.mp (by decide))
  have docs : ∀ text ∈ moduleDocTexts figureModule, StaysInComment text := by
    unfold StaysInComment
    decide
  obtain ⟨found, unambiguous, -, documented⟩ := emitted_names_are_unambiguous built emitted
    (isTidy_default true true) (by decide)
  refine ⟨built, glue, found, emitted, unambiguous, documented docs, ?_, ?_⟩
  · rw [unambiguous.values, List.append_assoc]
    exact List.suffix_append _ _
  · exact unambiguous.types.trans (by decide)

/-- A documentation text that ends its comment, declares a constant and opens another comment. -/
def escapingDocs : String := "*/ const f = 0; /*"

/-- A function that is documented so. -/
def escapingDraft : ModuleDraft :=
  ModuleDraft.empty "d" |>.addSignature ⟨"f", [], .primitive .void, false, some escapingDocs⟩

/-- The module of that draft. -/
def escapingModule : BindingModule :=
  ⟨"d", escapingDraft.options, ⟨#[]⟩, escapingDraft.signatures⟩

/-- What the code within that documentation text declares; other texts declare nothing. -/
def readEscapingDocs (docs : Option String) : List Declared :=
  if docs = some escapingDocs then [.value "f"] else []

theorem leads_escapingDocs :
    Leads .module (docComment (some escapingDocs)).toList [.value "f"] .module := by
  let lines := ["/**".toList, " * */ const f = 0; /*".toList, " */".toList]
  have printed : (docComment (some escapingDocs)).toList = lines.flatMap (· ++ ['\n']) := by
    decide +kernel
  rw [printed]
  exact .ofLines (by decide +kernel) (by decide +kernel)

/-- The constant and the function share their name. -/
theorem documentation_declares_name_again :
    escapingDraft.build = .ok escapingModule ∧
      (∀ decl ∈ escapingModule.types.toList, decl.hostText = none) ∧
      ∃ glue found, emit escapingModule Config.default = .ok glue ∧ declared? glue.text = some found ∧
        valueNames found =
          ["CachePolicy", "prepare", "url", "uri", "opts", "symbols", "_lib", "f", "f"] ∧
        ¬ Unambiguous escapingModule glue.ownBindings found := by
  have built : escapingDraft.build = .ok escapingModule := by decide
  have rendered : ∀ decl ∈ escapingModule.types.toList, decl.hostText = none := by decide
  obtain ⟨glue, emitted⟩ := (exists_emit_eq_ok_iff built Config.default).mpr
    (BindingModule.faults_eq_nil_iff.mp (by decide))
  have legible := isLegible_of_emit built emitted (isTidy_default true false) rendered
  have docs : ∀ text ∈ glue.docTexts,
      Leads .module (docComment text).toList (readEscapingDocs text) .module := by
    intro text inside
    obtain rfl | known := docTexts_of_emit emitted text inside
    · exact .nil .module
    · obtain rfl := List.mem_singleton.mp known
      exact leads_escapingDocs
  have names : (emit escapingModule Config.default).map
      (fun glue => valueNames (glue.declaredWith readEscapingDocs)) =
        .ok ["CachePolicy", "prepare", "url", "uri", "opts", "symbols", "_lib", "f", "f"] := by
    decide
  rw [emitted] at names
  have values : valueNames (glue.declaredWith readEscapingDocs) =
      ["CachePolicy", "prepare", "url", "uri", "opts", "symbols", "_lib", "f", "f"] :=
    Except.ok.inj names
  refine ⟨built, rendered, glue, _, emitted,
    (stands_parts legible docs).declared?_endWithLineFeed, values, fun unambiguous => ?_⟩
  have distinct := unambiguous.values_distinct
  rw [values] at distinct
  revert distinct
  decide

end Glue
end ForeignBindings
