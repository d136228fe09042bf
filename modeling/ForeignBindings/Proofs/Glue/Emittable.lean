import ForeignBindings.Proofs.Glue.ModuleText
import ForeignBindings.Proofs.Glue.Resolution

/-!
# What can be emitted

A module that is emitted was checked when it was built and again when its names were resolved.  From
these checks follows what its text relies on: references stand for types of the module, their names
are no words of the host language, and the parts of a wrapper stay on the lines of the wrapper.
-/

namespace ForeignBindings
namespace Glue

open Checks

/-- Whether a module was built and everything in it can be emitted. -/
structure Emittable (module : BindingModule) : Prop where
  /-- The types stand in the order of their names. -/
  ordered : module.types.Ordered
  /-- The module passes the checks of a build. -/
  wellFormed : ModuleDraft.WellFormed
    ⟨module.name, module.options, module.types.toList, module.signatures⟩
  /-- Names can be emitted and references followed. -/
  resolved : module.WellResolved

variable {draft : ModuleDraft} {module : BindingModule} {config : Config} {glue : Module}

theorem emittable_of_emit (built : draft.build = .ok module)
    (emitted : emit module config = .ok glue) : Emittable module := by
  obtain ⟨wellFormed, normalizes⟩ := ModuleDraft.build_eq_ok_iff.mp built
  exact ⟨normalizes.types_ordered,
    wellFormed.of_perm normalizes.types_perm.symm normalizes.signatures_perm.symm,
    (exists_emit_eq_ok_iff built config).mp ⟨glue, emitted⟩⟩

/-- What an emitted module is made of. -/
theorem emit_eq_ok (emitted : emit module config = .ok glue) :
    ∃ plans declared,
      module.signatures.mapM (Plan.ofSignature module.types) = .ok plans ∧
        module.types.toList.mapM (declarations module.types module.options.byteOrder) =
          .ok declared ∧
        glue =
          { banner := config.banner
            loaderUrl := config.loaderUrl
            exported := config.exported
            lazyInit := config.lazyInit
            helpers := HelperSet.unions (plans.map Plan.helpers)
            package := module.name
            library := locate config.platforms module.name module.options.location
              module.options.profile
            symbols := plans.map Plan.symbol
            declarations := declared.flatten
            wrappers := plans.map Plan.wrapper } := by
  obtain ⟨-, emitted⟩ := then_eq_ok_iff.mp emitted
  obtain ⟨-, emitted⟩ := then_eq_ok_iff.mp emitted
  obtain ⟨plans, planned, emitted⟩ := bind_eq_ok_iff.mp emitted
  obtain ⟨declared, declares, emitted⟩ := bind_eq_ok_iff.mp emitted
  exact ⟨plans, declared, planned, declares, (Except.ok.inj emitted).symm⟩

/-- A reference stands for a primitive type or for one of the declarations. -/
theorem resolve_eq_ok {types : DeclSet} (ordered : types.Ordered) {type : TypeRef} {site : Site}
    {resolved : Resolved} (found : types.resolve type site = .ok resolved) :
    (∃ primitive, type = .primitive primitive ∧ resolved = .ofPrimitive primitive) ∨
      ∃ decl ∈ types.toList, type = .declared decl.name ∧ resolved = .ofDecl decl := by
  cases type with
  | primitive primitive => exact .inl ⟨primitive, rfl, (Except.ok.inj found).symm⟩
  | declared name =>
      rw [DeclSet.resolve] at found
      split at found
      case h_1 decl known =>
        obtain ⟨inside, rfl⟩ := (DeclSet.find?_eq_some_iff ordered).mp known
        exact .inr ⟨decl, inside, rfl, (Except.ok.inj found).symm⟩
      case h_2 => cases found

theorem staysOnLine_ofPrimitive (primitive : Primitive) :
    Text.StaysOnLine (HostType.ofPrimitive primitive).spelling.toList := by
  cases primitive <;> decide

theorem Emittable.isIdentifier (emittable : Emittable module) {decl : TypeDecl}
    (inside : decl ∈ module.types.toList) : Name.isIdentifier decl.name = true :=
  (emittable.wellFormed.types decl inside).declarable.1

theorem Emittable.staysOnLine_host (emittable : Emittable module) {type : TypeRef} {site : Site}
    {resolved : Resolved} (found : module.types.resolve type site = .ok resolved) :
    Text.StaysOnLine resolved.host.spelling.toList := by
  obtain ⟨primitive, -, rfl⟩ | ⟨decl, inside, -, rfl⟩ := resolve_eq_ok emittable.ordered found
  · exact staysOnLine_ofPrimitive primitive
  · exact staysOnLine_identifier (emittable.isIdentifier inside)

/-- The names of declared types are spelled as no other type. -/
theorem Emittable.isLegibleType (emittable : Emittable module) {decl : TypeDecl}
    (inside : decl ∈ module.types.toList) : IsLegibleType (.declared decl.name) := by
  have wellFormed := emittable.wellFormed.types decl inside
  have shadows := emittable.resolved.types decl inside
  refine ⟨wellFormed.declarable.1, ?_⟩
  have reserved : "void" ∈ Name.reservedWords ∧ "null" ∈ Name.reservedWords := by decide
  have builtin : "number" ∈ Name.builtinTypeNames ∧ "bigint" ∈ Name.builtinTypeNames ∧
      "string" ∈ Name.builtinTypeNames := by decide
  have bound : "Uint8Array" ∈ preambleBindings := by decide
  simp only [wordedTypes, List.forall_mem_cons, HostType.spelling]
  -- Each word is refused as a name for one of three reasons.
  refine ⟨?_, ?_, ?_, ?_, ?_, ?_, List.forall_mem_nil _⟩
  · exact fun same => wellFormed.not_builtin (same ▸ builtin.1)
  · exact fun same => wellFormed.not_builtin (same ▸ builtin.2.1)
  · exact fun same => wellFormed.declarable.2 (same ▸ reserved.1)
  · exact fun same => wellFormed.not_builtin (same ▸ builtin.2.2)
  · exact fun same => shadows (.inl (same ▸ bound))
  · exact fun same => wellFormed.declarable.2 (same ▸ reserved.2)

/-- Whether the names in an expression stay on one line. -/
def Expr.StaysOnLine : Expr → Prop
  | .name identifier => Text.StaysOnLine identifier.toList
  | .property object key => object.StaysOnLine ∧ Text.StaysOnLine key.toList
  | .call function argument => function.StaysOnLine ∧ argument.StaysOnLine
  | .cast value type => value.StaysOnLine ∧ Text.StaysOnLine type.spelling.toList
  | .arrow parameter body => Text.StaysOnLine parameter.toList ∧ body.StaysOnLine

theorem Expr.StaysOnLine.spelling {expr : Expr} (stays : expr.StaysOnLine) :
    Text.StaysOnLine expr.spelling.toList := by
  induction expr with
  | name identifier => exact stays
  | property object key object_stays =>
      simp only [Expr.spelling, String.toList_append, Text.staysOnLine_append]
      exact ⟨⟨object_stays stays.1, by decide⟩, stays.2⟩
  | call function argument function_stays argument_stays =>
      simp only [Expr.spelling, String.toList_append, Text.staysOnLine_append]
      exact ⟨⟨⟨function_stays stays.1, by decide⟩, argument_stays stays.2⟩, by decide⟩
  | cast value type value_stays =>
      simp only [Expr.spelling, String.toList_append, Text.staysOnLine_append]
      exact ⟨⟨value_stays stays.1, by decide⟩, stays.2⟩
  | arrow parameter body body_stays =>
      simp only [Expr.spelling, String.toList_append, Text.staysOnLine_append]
      exact ⟨⟨⟨by decide, stays.1⟩, by decide⟩, body_stays stays.2⟩

theorem staysOnLine_packName {typeName : String} (stays : Text.StaysOnLine typeName.toList) :
    Text.StaysOnLine (Call.packName typeName).toList := by
  rw [Call.packName, String.toList_append, Text.staysOnLine_append]
  exact ⟨by decide, stays⟩

theorem staysOnLine_unpackName {typeName : String} (stays : Text.StaysOnLine typeName.toList) :
    Text.StaysOnLine (Call.unpackName typeName).toList := by
  rw [Call.unpackName, String.toList_append, Text.staysOnLine_append]
  exact ⟨by decide, stays⟩

theorem staysOnLine_paramIdent (index : Nat) :
    Text.StaysOnLine (Call.paramIdent index).toList := by
  rw [Call.paramIdent, String.toList_append, Text.staysOnLine_append]
  exact ⟨by decide, staysOnLine_toString index⟩

/-- Whether the parts of a parameter stay on the lines of a wrapper. -/
structure ParamStaysOnLine (param : Call.Param) : Prop where
  /-- The name of the parameter does. -/
  ident : Text.StaysOnLine param.ident.toList
  /-- Its type does. -/
  host : Text.StaysOnLine param.host.spelling.toList
  /-- The name of the function that packs it does. -/
  fixed : ∀ typeName, param.encoding = .fixed typeName → Text.StaysOnLine typeName.toList

theorem Emittable.staysOnLine_param (emittable : Emittable module) {function : String}
    {index : Nat} {type : TypeRef} {param : Call.Param}
    (planned : Call.planParam module.types function index type = .ok param) :
    ParamStaysOnLine param := by
  obtain ⟨resolved, found, planned⟩ := bind_eq_ok_iff.mp planned
  obtain ⟨encoding, encoded, planned⟩ := bind_eq_ok_iff.mp planned
  cases planned
  refine ⟨staysOnLine_paramIdent index, emittable.staysOnLine_host found, ?_⟩
  rintro typeName rfl
  obtain ⟨primitive, -, rfl⟩ | ⟨decl, inside, -, rfl⟩ := resolve_eq_ok emittable.ordered found
  · cases primitive <;> cases encoded
  · rw [Call.paramEncoding, Resolved.ofDecl] at encoded
    obtain ⟨-, same⟩ | ⟨-, same⟩ := ite_eq_iff.mp (Except.ok.inj encoded)
    · cases same
      exact staysOnLine_identifier (emittable.isIdentifier inside)
    · cases same

theorem exists_planParam_of_mem {types : DeclSet} {function : String} {index : Nat}
    {references : List TypeRef} {params : List Call.Param}
    (planned : Call.planParamsFrom types function index references = .ok params)
    {param : Call.Param} (inside : param ∈ params) :
    ∃ index type, Call.planParam types function index type = .ok param := by
  induction references generalizing index params with
  | nil =>
      cases planned
      cases inside
  | cons type references induction =>
      obtain ⟨first, first_planned, planned⟩ := bind_eq_ok_iff.mp planned
      obtain ⟨others, others_planned, planned⟩ := bind_eq_ok_iff.mp planned
      cases planned
      obtain rfl | inside := List.mem_cons.mp inside
      · exact ⟨index, type, first_planned⟩
      · exact induction others_planned inside

namespace ParamStaysOnLine

variable {param : Call.Param}

theorem buffer (stays : ParamStaysOnLine param) : Text.StaysOnLine param.bufferIdent.toList := by
  rw [Call.Param.bufferIdent, String.toList_append, Text.staysOnLine_append]
  exact ⟨stays.ident, by decide⟩

theorem setup (stays : ParamStaysOnLine param) {constant : String × Expr}
    (made : param.setup? = some constant) :
    Text.StaysOnLine constant.1.toList ∧ constant.2.StaysOnLine := by
  have encode : Text.StaysOnLine "encode".toList := by decide
  rw [Call.Param.setup?] at made
  split at made
  case h_1 | h_2 => cases made
  case h_3 =>
    cases made
    exact ⟨stays.buffer, encode, stays.ident⟩
  case h_4 =>
    cases made
    have json : Text.StaysOnLine "JSON".toList := by decide
    have stringify : Text.StaysOnLine "stringify".toList := by decide
    exact ⟨stays.buffer, encode, ⟨json, stringify⟩, stays.ident⟩
  case h_5 typeName fixed =>
    cases made
    exact ⟨stays.buffer, staysOnLine_packName (stays.fixed typeName fixed), stays.ident⟩

theorem arguments (stays : ParamStaysOnLine param) {argument : Expr}
    (inside : argument ∈ param.arguments) : argument.StaysOnLine := by
  have length : Text.StaysOnLine "byteLength".toList := by decide
  have buffer {ident : String} (ident_stays : Text.StaysOnLine ident.toList)
      (inside : argument ∈ Call.Param.bufferArguments ident) : argument.StaysOnLine := by
    simp only [Call.Param.bufferArguments, List.mem_cons, List.not_mem_nil, or_false] at inside
    obtain rfl | rfl := inside
    · exact ident_stays
    · exact ⟨ident_stays, length⟩
  rw [Call.Param.arguments] at inside
  split at inside
  · obtain rfl := List.mem_singleton.mp inside
    exact stays.ident
  · exact buffer stays.ident inside
  · exact buffer stays.buffer inside
  · exact buffer stays.buffer inside
  · exact buffer stays.buffer inside

end ParamStaysOnLine

theorem staysOnLine_decode {decoding : Call.ResultDecoding}
    (names : ∀ typeName, decoding = .structured typeName ∨ decoding = .fixed typeName →
      Text.StaysOnLine typeName.toList) {raw : Expr} (stays : raw.StaysOnLine) :
    (decoding.decode raw).StaysOnLine := by
  have read : Text.StaysOnLine "readPointer".toList := by decide
  have decode : Text.StaysOnLine "decode".toList := by decide
  have json : Text.StaysOnLine "JSON".toList := by decide
  have parse : Text.StaysOnLine "parse".toList := by decide
  cases decoding with
  | direct => exact stays
  | bytes => exact ⟨read, stays⟩
  | text => exact ⟨decode, read, stays⟩
  | structured typeName => exact ⟨⟨⟨json, parse⟩, decode, read, stays⟩, names typeName (.inl rfl)⟩
  | fixed typeName => exact ⟨staysOnLine_unpackName (names typeName (.inr rfl)), read, stays⟩

theorem Emittable.staysOnLine_result (emittable : Emittable module) {signature : Signature}
    {result : Call.Result} (planned : Call.planResult module.types signature = .ok result) :
    Text.StaysOnLine result.annotation.spelling.toList ∧ result.returned.StaysOnLine := by
  obtain ⟨resolved, found, planned⟩ := bind_eq_ok_iff.mp planned
  cases planned
  have host := emittable.staysOnLine_host found
  have names : ∀ typeName, Call.resultDecoding resolved = .structured typeName ∨
      Call.resultDecoding resolved = .fixed typeName → Text.StaysOnLine typeName.toList := by
    intro typeName decoded
    obtain ⟨primitive, -, rfl⟩ | ⟨decl, inside, -, rfl⟩ := resolve_eq_ok emittable.ordered found
    · cases primitive <;> rcases decoded with decoded | decoded <;> cases decoded
    · have name := staysOnLine_identifier (emittable.isIdentifier inside)
      rw [Call.resultDecoding, Resolved.ofDecl] at decoded
      simp only at decoded
      split at decoded <;> rcases decoded with decoded | decoded <;> cases decoded <;> exact name
  have raw : Text.StaysOnLine Call.rawResult.toList := by decide
  have pointer : Text.StaysOnLine "ptr".toList := by decide
  have next : Text.StaysOnLine "then".toList := by decide
  constructor
  · rw [Call.Result.annotation]
    split
    · simp only [HostType.spelling, String.toList_append, Text.staysOnLine_append]
      exact ⟨⟨by decide, host⟩, by decide⟩
    · exact host
  · rw [Call.Result.returned]
    split
    · exact raw
    · exact staysOnLine_decode names raw
    · exact ⟨⟨raw, next⟩, pointer, staysOnLine_decode names pointer⟩

theorem Emittable.isLegible_wrapper (emittable : Emittable module) {signature : Signature}
    (inside : signature ∈ module.signatures) {plan : Plan}
    (planned : Plan.ofSignature module.types signature = .ok plan) :
    plan.wrapper.IsLegible ∧ plan.wrapper.name = signature.name := by
  obtain ⟨params, params_planned, planned⟩ := bind_eq_ok_iff.mp planned
  obtain ⟨result, result_planned, planned⟩ := bind_eq_ok_iff.mp planned
  cases planned
  obtain ⟨annotated, returned⟩ := emittable.staysOnLine_result result_planned
  have stays {param : Call.Param} (held : param ∈ params) : ParamStaysOnLine param := by
    obtain ⟨index, type, param_planned⟩ := exists_planParam_of_mem params_planned held
    exact emittable.staysOnLine_param param_planned
  have rawResult : Text.StaysOnLine Call.rawResult.toList := by decide
  refine ⟨⟨(emittable.wellFormed.functions signature inside).1, ?_, annotated, ?_, rawResult, ?_,
    returned.spelling⟩, rfl⟩
  · intro param held
    obtain ⟨source, known, rfl⟩ := List.mem_map.mp held
    exact ⟨(stays known).ident, (stays known).host⟩
  · intro constant held
    obtain ⟨source, known, made⟩ := List.mem_filterMap.mp held
    exact (stays known).setup made |>.imp_right Expr.StaysOnLine.spelling
  · intro argument held
    obtain ⟨source, known, made⟩ := List.mem_flatMap.mp held
    exact ((stays known).arguments made).spelling

end Glue
end ForeignBindings
