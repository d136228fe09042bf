import ForeignBindings.Glue.Emission
import ForeignBindings.Proofs.Module.WellFormed

/-!
# Which modules can be emitted

A module that a draft builds is emitted exactly if no name that it declares shadows one that the
emitted code relies on, every reference names a declared type, and no parameter is void.  The faults
of a module stand in a fixed order: the names of functions, the names of types and of the interfaces
of their variants, the references of declarations, and for each function its parameters and then
its result.  A module that is not emitted is refused with the first of its faults.  What the checks
of a build already guarantee is no fault: an emitted declaration never lacks a layout.
-/

namespace ForeignBindings
namespace Glue

/-- Whether a name would hide one that the emitted code relies on. -/
def Shadows (name : String) : Prop :=
  name ∈ preambleBindings ∨
    "__pack_".toList <+: name.toList ∨ "__unpack_".toList <+: name.toList

instance (name : String) : Decidable (Shadows name) :=
  inferInstanceAs (Decidable (_ ∨ _ ∨ _))

end Glue

namespace BindingModule

open Glue (Shadows)

/-- Whether a reference stands for something in a module: it is primitive, or a declared type of the
module. -/
def Declares (module : BindingModule) : TypeRef → Prop
  | .primitive _ => True
  | .declared name => name ∈ module.types.toList.map TypeDecl.name

instance (module : BindingModule) (type : TypeRef) : Decidable (module.Declares type) :=
  match type with
  | .primitive _ => .isTrue trivial
  | .declared name => inferInstanceAs (Decidable (name ∈ module.types.toList.map TypeDecl.name))

/-- Whether every name of a module can be emitted and every reference in it can be followed. -/
structure WellResolved (module : BindingModule) : Prop where
  /-- No function hides a name that the emitted code relies on. -/
  functions : ∀ signature ∈ module.signatures, ¬ Shadows signature.name
  /-- No type does. -/
  types : ∀ decl ∈ module.types.toList, ¬ Shadows decl.name
  /-- No interface of a variant does. -/
  interfaces : ∀ decl ∈ module.types.toList, ∀ name ∈ decl.interfaceNames, ¬ Shadows name
  /-- Fields and payloads hold primitive and declared types. -/
  references : ∀ decl ∈ module.types.toList, ∀ reference ∈ decl.references,
    module.Declares reference.2
  /-- Parameters are of primitive types other than void or of declared types. -/
  params : ∀ signature ∈ module.signatures, ∀ type ∈ signature.params,
    type ≠ .primitive .void ∧ module.Declares type
  /-- Results are of primitive or declared types. -/
  results : ∀ signature ∈ module.signatures, module.Declares signature.result

/-- The fault of a reference at a place, if there is no such type. -/
def referenceFaults (module : BindingModule) (site : Site) (type : TypeRef) : List GlueError :=
  if module.Declares type then [] else [.unsupportedType type.name site]

/-- The fault of a parameter, if it is void or there is no such type. -/
def paramFaults (module : BindingModule) (site : Site) (type : TypeRef) : List GlueError :=
  if type = .primitive .void then [.voidParameter site] else module.referenceFaults site type

/-- The faults of a function: those of its parameters in order, then that of its result. -/
def signatureFaults (module : BindingModule) (signature : Signature) : List GlueError :=
  signature.params.zipIdx.flatMap (fun param =>
      module.paramFaults (.param signature.name param.2) param.1) ++
    module.referenceFaults (.result signature.name) signature.result

/-- The faults of the fields and payloads of a declaration in order. -/
def declFaults (module : BindingModule) (decl : TypeDecl) : List GlueError :=
  decl.references.flatMap fun reference =>
    module.referenceFaults (.field decl.name reference.1) reference.2

/-- The names that a module declares: its functions, then its types, each with the interfaces of its
variants. -/
def declaredNames (module : BindingModule) : List String :=
  module.signatures.map Signature.name ++
    module.types.toList.flatMap fun decl => decl.name :: decl.interfaceNames

/-- The faults of a module: names in the order of their declarations, then the references of
declarations, then functions. -/
def faults (module : BindingModule) : List GlueError :=
  (module.declaredNames.filter fun name => Shadows name).map .shadowsBinding ++
    (module.types.toList.flatMap module.declFaults ++
      module.signatures.flatMap module.signatureFaults)

theorem referenceFaults_eq_nil_iff {module : BindingModule} {site : Site} {type : TypeRef} :
    module.referenceFaults site type = [] ↔ module.Declares type := by
  rw [referenceFaults]
  split
  case isTrue known => exact iff_of_true rfl known
  case isFalse unknown => exact iff_of_false (List.cons_ne_nil _ _) unknown

theorem paramFaults_eq_nil_iff {module : BindingModule} {site : Site} {type : TypeRef} :
    module.paramFaults site type = [] ↔ type ≠ .primitive .void ∧ module.Declares type := by
  rw [paramFaults]
  split
  case isTrue void => exact iff_of_false (List.cons_ne_nil _ _) fun fine => fine.1 void
  case isFalse some =>
    rw [referenceFaults_eq_nil_iff]
    exact ⟨fun known => ⟨some, known⟩, And.right⟩

theorem signatureFaults_eq_nil_iff {module : BindingModule} {signature : Signature} :
    module.signatureFaults signature = [] ↔
      (∀ type ∈ signature.params, type ≠ .primitive .void ∧ module.Declares type) ∧
        module.Declares signature.result := by
  rw [signatureFaults, List.append_eq_nil_iff, List.flatMap_eq_nil_iff, referenceFaults_eq_nil_iff]
  simp only [paramFaults_eq_nil_iff]
  refine and_congr_left fun _ => ⟨fun fine type inside => ?_, fun fine param inside => ?_⟩
  · obtain ⟨index, bound, rfl⟩ := List.getElem_of_mem inside
    exact fine (signature.params[index], index) (List.mk_mem_zipIdx_iff_getElem?.mpr (by simp))
  · exact fine param.1 (List.fst_mem_of_mem_zipIdx inside)

/-- A module is well resolved exactly if it has no faults. -/
theorem faults_eq_nil_iff {module : BindingModule} : module.faults = [] ↔ module.WellResolved := by
  simp only [faults, List.append_eq_nil_iff, List.map_eq_nil_iff, List.filter_eq_nil_iff,
    List.flatMap_eq_nil_iff, declFaults, referenceFaults_eq_nil_iff, signatureFaults_eq_nil_iff,
    decide_eq_true_eq, declaredNames, List.forall_mem_append, List.forall_mem_map,
    List.mem_flatMap, List.mem_cons]
  constructor
  · rintro ⟨⟨functions, names⟩, references, calls⟩
    refine ⟨functions, fun decl inside => ?_, fun decl inside name emitted => ?_, references,
      fun signature inside => (calls signature inside).1,
      fun signature inside => (calls signature inside).2⟩
    · exact names decl.name ⟨decl, inside, .inl rfl⟩
    · exact names name ⟨decl, inside, .inr emitted⟩
  · intro resolved
    refine ⟨⟨resolved.functions, ?_⟩, resolved.references, fun signature inside =>
      ⟨resolved.params signature inside, resolved.results signature inside⟩⟩
    rintro name ⟨decl, inside, rfl | emitted⟩
    · exact resolved.types decl inside
    · exact resolved.interfaces decl inside name emitted

theorem eq_unsupportedType_of_mem_referenceFaults {module : BindingModule} {site : Site}
    {type : TypeRef} {fault : GlueError} (inside : fault ∈ module.referenceFaults site type) :
    fault = .unsupportedType type.name site := by
  rw [referenceFaults] at inside
  split at inside
  case isTrue => cases inside
  case isFalse => exact List.mem_singleton.mp inside

/-- No fault is one of a declaration by itself. -/
theorem ne_invalidModule_of_mem_faults {module : BindingModule} {fault : GlueError}
    (inside : fault ∈ module.faults) (cause : ModuleError) : fault ≠ .invalidModule cause := by
  simp only [faults, signatureFaults, declFaults, List.mem_append, List.mem_map,
    List.mem_flatMap] at inside
  rcases inside with ⟨name, -, rfl⟩ | ⟨decl, -, reference, -, inside⟩ |
    ⟨signature, -, ⟨param, -, inside⟩ | inside⟩
  · exact nofun
  · rw [eq_unsupportedType_of_mem_referenceFaults inside]
    exact nofun
  · rw [paramFaults] at inside
    split at inside
    case isTrue =>
      rw [List.mem_singleton.mp inside]
      exact nofun
    case isFalse =>
      rw [eq_unsupportedType_of_mem_referenceFaults inside]
      exact nofun
  · rw [eq_unsupportedType_of_mem_referenceFaults inside]
    exact nofun

end BindingModule

namespace Glue

open Checks

theorem shadowsBinding_iff {name : String} : shadowsBinding name = true ↔ Shadows name := by
  simp [shadowsBinding, Shadows, codecNameStarts]

theorem reports_checkShadowing (module : BindingModule) :
    Reports ((module.declaredNames.filter fun name => Shadows name).map .shadowsBinding)
      (checkShadowing module) := by
  have same : (fun name => decide (Shadows name)) = shadowsBinding :=
    funext fun name => Bool.eq_iff_iff.mpr (decide_eq_true_iff.trans shadowsBinding_iff.symm)
  have names : emittedNames module = module.declaredNames := rfl
  rw [checkShadowing, names, same, ← List.head?_filter]
  cases module.declaredNames.filter shadowsBinding with
  | nil => exact .ok ()
  | cons name rest => rfl

variable {module : BindingModule}

theorem reports_resolve (ordered : module.types.Ordered) (type : TypeRef) (site : Site) :
    Reports (module.referenceFaults site type) (module.types.resolve type site) := by
  cases type with
  | primitive primitive => exact .ok _
  | declared name =>
      rw [DeclSet.resolve]
      cases found : module.types.find? name with
      | none =>
          have undeclared : ¬ module.Declares (.declared name) :=
            (DeclSet.find?_eq_none_iff ordered).mp found
          rw [BindingModule.referenceFaults, if_neg undeclared]
          exact .error _
      | some decl =>
          obtain ⟨inside, rfl⟩ := (DeclSet.find?_eq_some_iff ordered).mp found
          have declared : module.Declares (.declared decl.name) := List.mem_map_of_mem inside
          rw [BindingModule.referenceFaults, if_pos declared]
          exact .ok _

theorem reports_checkReferences (ordered : module.types.Ordered) :
    Reports (module.types.toList.flatMap module.declFaults) module.types.checkReferences := by
  refine .forM fun decl _ => .forM fun reference _ => ?_
  rw [← List.append_nil (module.referenceFaults _ _)]
  exact (reports_resolve ordered _ _).bind fun _ _ => .ok ()

theorem reports_paramEncoding (primitive : Primitive) (site : Site) :
    Reports (if primitive = .void then [.voidParameter site] else [])
      (Call.paramEncoding (.ofPrimitive primitive) site) := by
  cases primitive <;> rfl

theorem reports_planParam (ordered : module.types.Ordered) (function : String) (index : Nat)
    (type : TypeRef) :
    Reports (module.paramFaults (.param function index) type)
      (Call.planParam module.types function index type) := by
  cases type with
  | primitive primitive =>
      have faults : module.paramFaults (.param function index) (.primitive primitive) =
          if primitive = .void then [.voidParameter (.param function index)] else [] := by
        simp [BindingModule.paramFaults, BindingModule.referenceFaults, BindingModule.Declares]
      rw [faults]
      exact (reports_paramEncoding primitive _).map
  | declared name =>
      have faults : module.paramFaults (.param function index) (.declared name) =
          module.referenceFaults (.param function index) (.declared name) ++ [] := by
        simp [BindingModule.paramFaults]
      rw [faults]
      refine (reports_resolve ordered _ _).bind fun resolved found => ?_
      rw [DeclSet.resolve] at found
      split at found
      case h_1 =>
        cases found
        exact .ok _
      case h_2 => cases found

theorem reports_planParamsFrom (ordered : module.types.Ordered) (function : String) (index : Nat)
    (types : List TypeRef) :
    Reports
      ((types.zipIdx index).flatMap fun param =>
        module.paramFaults (.param function param.2) param.1)
      (Call.planParamsFrom module.types function index types) := by
  induction types generalizing index with
  | nil => exact .ok []
  | cons type types induction =>
      rw [List.zipIdx_cons, List.flatMap_cons, Call.planParamsFrom]
      refine (reports_planParam ordered function index type).bind fun param _ => ?_
      exact (induction (index + 1)).map

theorem reports_planResult (ordered : module.types.Ordered) (signature : Signature) :
    Reports (module.referenceFaults (.result signature.name) signature.result)
      (Call.planResult module.types signature) :=
  (reports_resolve ordered signature.result (.result signature.name)).map

theorem reports_ofSignature (ordered : module.types.Ordered) (signature : Signature) :
    Reports (module.signatureFaults signature) (Plan.ofSignature module.types signature) :=
  (reports_planParamsFrom ordered signature.name 0 signature.params).bind fun _ _ =>
    (reports_planResult ordered signature).map

theorem exists_memberTypes (ordered : module.types.Ordered) (typeName : String)
    (path : String → String) (encoding : Encoding) {fields : Fields}
    (known : ∀ field ∈ fields.toList, module.Declares field.2) :
    ∃ members, memberTypes module.types typeName path encoding fields = .ok members := by
  refine exists_mapM_eq_ok fun field inside => ?_
  obtain ⟨resolved, found⟩ := (reports_resolve ordered field.2
    (.field typeName (path field.1))).exists_ok_iff.mpr
      (BindingModule.referenceFaults_eq_nil_iff.mpr (known field inside))
  rw [DeclSet.fieldType, found]
  exact ⟨_, rfl⟩

theorem exists_variantInterface (ordered : module.types.Ordered) (typeName : String)
    (union : UnionDecl) {variant : Variant}
    (known : ∀ reference ∈ TypeDecl.variantReferences variant, module.Declares reference.2) :
    ∃ interface, variantInterface module.types typeName union variant = .ok interface := by
  rw [variantInterface]
  cases payload : variant.payload with
  | none => exact ⟨_, rfl⟩
  | some fields =>
      rw [TypeDecl.variantReferences, payload] at known
      obtain ⟨members, resolved⟩ := exists_memberTypes ordered typeName
        (fun field => variant.name ++ "." ++ field) .structured fun field inside =>
          known (variant.name ++ "." ++ field.1, field.2)
            (List.mem_map.mpr ⟨field, inside, rfl⟩)
      simp only [resolved]
      exact ⟨_, rfl⟩

theorem exists_typeDeclarations (ordered : module.types.Ordered) {decl : TypeDecl}
    (known : ∀ reference ∈ decl.references, module.Declares reference.2) :
    ∃ declared, typeDeclarations module.types decl = .ok declared := by
  rw [typeDeclarations]
  cases decl.hostText with
  | some text => exact ⟨_, rfl⟩
  | none =>
      cases kind : decl.kind with
      | struct struct =>
          rw [TypeDecl.references_of_struct kind] at known
          obtain ⟨members, resolved⟩ :=
            exists_memberTypes ordered decl.name id struct.encoding known
          simp only [structInterface, resolved]
          exact ⟨_, rfl⟩
      | union union =>
          rw [TypeDecl.references, kind] at known
          have each : ∀ variant ∈ union.variants, ∃ interface,
              variantInterface module.types decl.name union variant = .ok interface :=
            fun variant inside => exists_variantInterface ordered decl.name union
              fun reference held => known reference (List.mem_flatMap.mpr ⟨variant, inside, held⟩)
          obtain ⟨interfaces, resolved⟩ := exists_mapM_eq_ok each
          simp only [unionDeclarations, resolved]
          exact ⟨_, rfl⟩

theorem exists_codecDeclarations (order : ByteOrder) {decl : TypeDecl}
    (scalars : ∀ fields, decl.kind = .struct ⟨fields, .fixed⟩ →
      ∀ field ∈ fields.toList, field.2.IsScalar) :
    ∃ declared, codecDeclarations order decl = .ok declared := by
  rw [codecDeclarations]
  split
  case h_1 fields kind =>
    obtain ⟨layout, placed⟩ :=
      (Layout.exists_ofFields_iff decl.name).mpr (scalars fields kind)
    rw [placed]
    exact ⟨_, rfl⟩
  case h_2 => exact ⟨_, rfl⟩

theorem exists_declarations (ordered : module.types.Ordered) (order : ByteOrder) {decl : TypeDecl}
    (wellFormed : decl.WellFormedAmong module.types.toList)
    (known : ∀ reference ∈ decl.references, module.Declares reference.2) :
    ∃ declared, declarations module.types order decl = .ok declared := by
  obtain ⟨types, typesDeclared⟩ := exists_typeDeclarations ordered known
  obtain ⟨codecs, codecsDeclared⟩ := exists_codecDeclarations order wellFormed.packed_scalars
  rw [declarations, typesDeclared, codecsDeclared]
  exact ⟨_, rfl⟩

/-- Emission fails with the first fault of a module and succeeds if there is none. -/
theorem reports_emit (ordered : module.types.Ordered)
    (wellFormed : ∀ decl ∈ module.types.toList, decl.WellFormedAmong module.types.toList)
    (config : Config) : Reports module.faults (emit module config) := by
  refine (reports_checkShadowing module).bind fun _ _ => ?_
  refine (reports_checkReferences ordered).bind fun _ checked => ?_
  -- The references have been checked here, so the declarations, which look them up again, add no
  -- fault of their own.
  have known : ∀ decl ∈ module.types.toList, ∀ reference ∈ decl.references,
      module.Declares reference.2 := by
    have none := (reports_checkReferences ordered).exists_ok_iff.mp ⟨_, checked⟩
    simpa only [List.flatMap_eq_nil_iff, BindingModule.declFaults,
      BindingModule.referenceFaults_eq_nil_iff] using none
  obtain ⟨declared, succeeded⟩ := exists_mapM_eq_ok fun decl inside =>
    exists_declarations ordered module.options.byteOrder (wellFormed decl inside)
      (known decl inside)
  rw [succeeded]
  exact (Reports.mapM fun signature _ => reports_ofSignature ordered signature).map

/-- Emission of a module that a draft builds fails with its first fault. -/
theorem reports_emit_of_build {draft : ModuleDraft} (built : draft.build = .ok module)
    (config : Config) : Reports module.faults (emit module config) := by
  obtain ⟨wellFormed, normalizes⟩ := ModuleDraft.build_eq_ok_iff.mp built
  exact reports_emit normalizes.types_ordered
    (fun decl inside => ModuleDraft.wellFormedAmong_of_perm normalizes.types_perm.symm
      (wellFormed.types decl (normalizes.types_perm.mem_iff.mp inside))) config

theorem exists_emit_eq_ok_iff {draft : ModuleDraft} (built : draft.build = .ok module)
    (config : Config) : (∃ glue, emit module config = .ok glue) ↔ module.WellResolved :=
  (reports_emit_of_build built config).exists_ok_iff.trans BindingModule.faults_eq_nil_iff

/-- A module that a draft builds is emitted exactly if it is well resolved, and is otherwise refused
with the first of its faults, where functions and types stand in the order of their names.  No fault
is one that a build already excludes. -/
theorem emit_succeeds_exactly_if_wellResolved {draft : ModuleDraft}
    (built : draft.build = .ok module) (config : Config) :
    ((∃ glue, emit module config = .ok glue) ↔ module.WellResolved) ∧
      (∀ cause, emit module config = .error cause ↔ module.faults.head? = some cause) ∧
      (∀ cause, emit module config ≠ .error (.invalidModule cause)) ∧
      (module.signatures.map Signature.name).Pairwise (· < ·) ∧
      (module.types.toList.map TypeDecl.name).Pairwise (· < ·) := by
  obtain ⟨-, normalizes⟩ := ModuleDraft.build_eq_ok_iff.mp built
  have reports := reports_emit_of_build built config
  refine ⟨exists_emit_eq_ok_iff built config, fun cause => reports.eq_error_iff,
    fun cause failed => ?_, normalizes.signatures_ordered, normalizes.types_ordered⟩
  exact BindingModule.ne_invalidModule_of_mem_faults
    (List.mem_of_mem_head? (reports.eq_error_iff.mp failed)) cause rfl

/-- A draft with a function of a void parameter and a field of a type that it does not declare. -/
def danglingDraft : ModuleDraft :=
  ModuleDraft.empty "shapes"
    |>.addSignature ⟨"area", [.primitive .void], .primitive .f64, false, none⟩
    |>.addType ⟨"Shape", .struct ⟨.ofList [("style", .declared "Style")], .structured⟩, none, none⟩

/-- The module of that draft. -/
def danglingModule : BindingModule :=
  ⟨"shapes", danglingDraft.options, ⟨danglingDraft.types.toArray⟩, danglingDraft.signatures⟩

/-- Fields are resolved before parameters. -/
theorem emit_danglingModule :
    danglingDraft.build = .ok danglingModule ∧
      emit danglingModule .default =
        .error (.unsupportedType "Style" (.field "Shape" "style")) := by
  have built : danglingDraft.build = .ok danglingModule := by decide
  obtain ⟨-, refused, -⟩ := emit_succeeds_exactly_if_wellResolved built .default
  exact ⟨built, (refused _).mpr (by decide)⟩

end Glue
end ForeignBindings
