import ForeignBindings.Proofs.Glue.Emittable
import ForeignBindings.Proofs.Glue.WrapperText
import Mathlib.Data.List.Forall2

/-!
# How calls are planned

How a type crosses a native call is a matter of the type and of the declarations of the module alone:
scalars cross as they are, bytes as a buffer of their own, and everything else in a buffer that is
made for it.  A module that is emitted has one plan for each function with one parameter for each of
the types that the function takes, and the wrapper of a plan can be read.
-/

namespace ForeignBindings
namespace Glue

open Checks

/-- The type of the host for values of a type. -/
def hostType : TypeRef → HostType
  | .primitive primitive => .ofPrimitive primitive
  | .declared name => .declared name

/-- How values of a type cross a native call. -/
def nativeKind : TypeRef → NativeKind
  | .primitive primitive => .ofPrimitive primitive
  | .declared _ => .buffer

/-- How parameters of a type are encoded, among the declarations of a module. -/
inductive Encodes (module : BindingModule) : TypeRef → Call.ParamEncoding → Prop where
  | direct {primitive : Primitive} (scalar : primitive.isBufferLike = false)
      (value : primitive ≠ .void) : Encodes module (.primitive primitive) .direct
  | text : Encodes module (.primitive .str) .text
  | bytes {primitive : Primitive} (buffer : primitive.isBufferLike = true)
      (untyped : primitive ≠ .str) : Encodes module (.primitive primitive) .bytes
  | structured {decl : TypeDecl} (inside : decl ∈ module.types.toList)
      (structured : decl.isFixedLayout = false) : Encodes module (.declared decl.name) .structured
  | fixed {decl : TypeDecl} (inside : decl ∈ module.types.toList)
      (fixed : decl.isFixedLayout = true) : Encodes module (.declared decl.name) (.fixed decl.name)

/-- How results of a type are decoded, among the declarations of a module. -/
inductive Decodes (module : BindingModule) : TypeRef → Call.ResultDecoding → Prop where
  | direct {primitive : Primitive} (scalar : primitive.isBufferLike = false) :
      Decodes module (.primitive primitive) .direct
  | text : Decodes module (.primitive .str) .text
  | bytes {primitive : Primitive} (buffer : primitive.isBufferLike = true)
      (untyped : primitive ≠ .str) : Decodes module (.primitive primitive) .bytes
  | structured {decl : TypeDecl} (inside : decl ∈ module.types.toList)
      (structured : decl.isFixedLayout = false) :
      Decodes module (.declared decl.name) (.structured decl.name)
  | fixed {decl : TypeDecl} (inside : decl ∈ module.types.toList)
      (fixed : decl.isFixedLayout = true) : Decodes module (.declared decl.name) (.fixed decl.name)

section Related

variable {α β : Type} {related : α → β → Prop} {items : List α} {results : List β}

/-- Results that were found one after the other belong to their items. -/
theorem forall₂_of_mapM_eq_ok {ε : Type} {step : α → Except ε β}
    (each : ∀ item ∈ items, ∀ result, step item = .ok result → related item result)
    (succeeded : items.mapM step = .ok results) :
    List.Forall₂ related items results := by
  induction items generalizing results with
  | nil =>
      cases succeeded
      exact .nil
  | cons item items induction =>
      obtain ⟨first, others⟩ := List.forall_mem_cons.mp each
      rw [List.mapM_cons] at succeeded
      obtain ⟨result, stepped, succeeded⟩ := bind_eq_ok_iff.mp succeeded
      obtain ⟨more, rest_stepped, succeeded⟩ := bind_eq_ok_iff.mp succeeded
      cases succeeded
      exact .cons (first result stepped) (induction others rest_stepped)

/-- Every result belongs to an item. -/
theorem exists_item_of_forall₂ (all : List.Forall₂ related items results) {result : β}
    (inside : result ∈ results) : ∃ item ∈ items, related item result := by
  induction all with
  | nil => cases inside
  | cons head _ induction =>
      obtain rfl | inside := List.mem_cons.mp inside
      · exact ⟨_, List.mem_cons_self, head⟩
      · obtain ⟨item, held, found⟩ := induction inside
        exact ⟨item, List.mem_cons_of_mem _ held, found⟩

/-- What is the same of every result and its item is the same in order. -/
theorem map_eq_of_forall₂ {γ : Type} {before : α → γ} {after : β → γ}
    (same : ∀ item result, related item result → after result = before item)
    (all : List.Forall₂ related items results) : results.map after = items.map before := by
  induction all with
  | nil => rfl
  | cons head _ induction => rw [List.map_cons, List.map_cons, same _ _ head, induction]

end Related

/-- Whether a parameter is what a type at an index asks for. -/
structure PlansParam (module : BindingModule) (entry : TypeRef × Nat) (param : Call.Param) :
    Prop where
  /-- The parameter is named by its index. -/
  ident : param.ident = Call.paramIdent entry.2
  /-- It has the type of the host. -/
  host : param.host = hostType entry.1
  /-- It is encoded as its type asks for. -/
  encodes : Encodes module entry.1 param.encoding
  /-- It takes the tokens of its type. -/
  native : param.native = (nativeKind entry.1).paramTokens

/-- Whether a result is what the function asks for. -/
structure PlansResult (module : BindingModule) (signature : Signature) (result : Call.Result) :
    Prop where
  /-- It has the type of the host. -/
  host : result.host = hostType signature.result
  /-- It is decoded as its type asks for. -/
  decodes : Decodes module signature.result result.decoding
  /-- It takes the token of its type. -/
  native : result.native = (nativeKind signature.result).resultToken
  /-- A call yields a promise if the function does not block. -/
  nonBlocking : result.nonBlocking = signature.nonBlocking

/-- Whether a plan is what a function asks for. -/
structure Plans (module : BindingModule) (signature : Signature) (plan : Plan) : Prop where
  /-- The plan is one of the function. -/
  planned : plan.signature = signature
  /-- There is one parameter for each type. -/
  params : List.Forall₂ (PlansParam module) signature.params.zipIdx plan.params
  /-- The result is that of the function. -/
  result : PlansResult module signature plan.result

variable {draft : ModuleDraft} {module : BindingModule} {config : Config} {glue : Module}

theorem plansParam_of_planParam (emittable : Emittable module) {function : String} {index : Nat}
    {type : TypeRef} {param : Call.Param}
    (planned : Call.planParam module.types function index type = .ok param) :
    PlansParam module (type, index) param := by
  obtain ⟨resolved, found, planned⟩ := bind_eq_ok_iff.mp planned
  obtain ⟨encoding, encoded, planned⟩ := bind_eq_ok_iff.mp planned
  cases planned
  obtain ⟨primitive, rfl, rfl⟩ | ⟨decl, inside, rfl, rfl⟩ := resolve_eq_ok emittable.ordered found
  · refine ⟨rfl, rfl, ?_, rfl⟩
    cases primitive
    case void => cases encoded
    case str =>
      cases encoded
      exact .text
    case buffer | bufferMut | ptr =>
      cases encoded
      exact .bytes rfl nofun
    all_goals
      cases encoded
      exact .direct rfl nofun
  · refine ⟨rfl, rfl, ?_, rfl⟩
    cases layout : decl.isFixedLayout <;> rw [Call.paramEncoding, Resolved.ofDecl] at encoded <;>
      simp only [layout] at encoded <;> cases encoded
    · exact .structured inside layout
    · exact .fixed inside layout

theorem plansParams_of_planParamsFrom (emittable : Emittable module) {function : String}
    {index : Nat} {types : List TypeRef} {params : List Call.Param}
    (planned : Call.planParamsFrom module.types function index types = .ok params) :
    List.Forall₂ (PlansParam module) (types.zipIdx index) params := by
  induction types generalizing index params with
  | nil =>
      cases planned
      exact .nil
  | cons type types induction =>
      obtain ⟨first, first_planned, planned⟩ := bind_eq_ok_iff.mp planned
      obtain ⟨others, others_planned, planned⟩ := bind_eq_ok_iff.mp planned
      cases planned
      exact .cons (plansParam_of_planParam emittable first_planned) (induction others_planned)

theorem plansResult_of_planResult (emittable : Emittable module) {signature : Signature}
    {result : Call.Result} (planned : Call.planResult module.types signature = .ok result) :
    PlansResult module signature result := by
  obtain ⟨resolved, found, planned⟩ := bind_eq_ok_iff.mp planned
  cases planned
  obtain ⟨primitive, type, rfl⟩ | ⟨decl, inside, type, rfl⟩ :=
    resolve_eq_ok emittable.ordered found
  · refine ⟨type ▸ rfl, type ▸ ?_, type ▸ rfl, rfl⟩
    cases primitive
    case str => exact .text
    case buffer | bufferMut | ptr => exact .bytes rfl nofun
    all_goals exact .direct rfl
  · refine ⟨type ▸ rfl, type ▸ ?_, type ▸ rfl, rfl⟩
    cases layout : decl.isFixedLayout <;> rw [Call.resultDecoding, Resolved.ofDecl] <;>
      simp only [layout]
    · exact .structured inside layout
    · exact .fixed inside layout

theorem plans_of_ofSignature (emittable : Emittable module) {signature : Signature} {plan : Plan}
    (planned : Plan.ofSignature module.types signature = .ok plan) :
    Plans module signature plan := by
  obtain ⟨params, params_planned, planned⟩ := bind_eq_ok_iff.mp planned
  obtain ⟨result, result_planned, planned⟩ := bind_eq_ok_iff.mp planned
  cases planned
  exact ⟨rfl, plansParams_of_planParamsFrom emittable params_planned,
    plansResult_of_planResult emittable result_planned⟩

theorem toList_paramIdent (index : Nat) :
    (Call.paramIdent index).toList = 'a' :: Nat.toDigits 10 index := by
  have digits : (toString index).toList = Nat.toDigits 10 index := Nat.toList_repr
  rw [Call.paramIdent, String.toList_append, digits]
  rfl

theorem isIdentifier_paramIdent (index : Nat) :
    Name.isIdentifier (Call.paramIdent index) = true := by
  have parts : (Nat.toDigits 10 index).all Name.isIdentifierPart = true := by
    refine List.all_eq_true.mpr fun digit inside => ?_
    have isDigit := Nat.isDigit_of_mem_toDigits (by decide) (by decide) inside
    rw [Name.isIdentifierPart, Char.isAlphanum, isDigit, Bool.or_true, Bool.true_or, Bool.true_or]
  rw [Name.isIdentifier, toList_paramIdent]
  exact Bool.and_eq_true_iff.mpr ⟨by decide, parts⟩

theorem PlansParam.isIdentifier_ident {entry : TypeRef × Nat} {param : Call.Param}
    (plans : PlansParam module entry param) : Name.isIdentifier param.ident = true :=
  plans.ident ▸ isIdentifier_paramIdent entry.2

theorem isIdentifier_bufferIdent {param : Call.Param}
    (known : Name.isIdentifier param.ident = true) :
    Name.isIdentifier param.bufferIdent = true :=
  isIdentifier_append known (by decide)

theorem Emittable.isLegibleType_of_encodes (emittable : Emittable module) {type : TypeRef}
    {encoding : Call.ParamEncoding} (encodes : Encodes module type encoding) :
    IsLegibleType (hostType type) := by
  cases encodes with
  | @direct primitive | @bytes primitive => cases primitive <;> trivial
  | text => trivial
  | structured inside | fixed inside => exact emittable.isLegibleType inside

theorem Emittable.isLegibleType_of_decodes (emittable : Emittable module) {type : TypeRef}
    {decoding : Call.ResultDecoding} (decodes : Decodes module type decoding) :
    IsLegibleType (hostType type) := by
  cases decodes with
  | @direct primitive | @bytes primitive => cases primitive <;> trivial
  | text => trivial
  | structured inside | fixed inside => exact emittable.isLegibleType inside

/-- The constant of a parameter that is encoded has a name and a value that can be told apart. -/
theorem Emittable.isLegible_setup (emittable : Emittable module) {entry : TypeRef × Nat}
    {param : Call.Param} (plans : PlansParam module entry param) {constant : String × Expr}
    (made : param.setup? = some constant) :
    Name.isIdentifier constant.1 = true ∧ constant.2.IsLegible := by
  obtain ⟨type, index⟩ := entry
  have known := plans.isIdentifier_ident
  have buffer := isIdentifier_bufferIdent known
  have value : (Expr.name param.ident).IsLegible := .path (.name known)
  have encode : (Expr.name "encode").IsPath := .name (by decide)
  have encodes := plans.encodes
  rw [Call.Param.setup?] at made
  cases encoded : param.encoding <;> rw [encoded] at made encodes <;> cases made
  case text => exact ⟨buffer, .call encode value⟩
  case structured =>
    exact ⟨buffer, .call encode (.call (.property (by decide) (by decide)) value)⟩
  case fixed typeName =>
    cases encodes with
    | fixed inside fixed =>
        have pack : Name.isIdentifier "__pack_" = true := by decide
        exact ⟨buffer, .call (.name (isIdentifier_append pack (emittable.isIdentifier inside))) value⟩

theorem isLegible_argument {entry : TypeRef × Nat} {param : Call.Param}
    (plans : PlansParam module entry param) {argument : Expr}
    (inside : argument ∈ param.arguments) : argument.IsLegible := by
  have known := plans.isIdentifier_ident
  have buffer {ident : String} (known : Name.isIdentifier ident = true)
      (inside : argument ∈ Call.Param.bufferArguments ident) : argument.IsLegible := by
    simp only [Call.Param.bufferArguments, List.mem_cons, List.not_mem_nil, or_false] at inside
    obtain rfl | rfl := inside
    · exact .path (.name known)
    · exact .path (.property known (by decide))
  rw [Call.Param.arguments] at inside
  cases encoded : param.encoding <;> rw [encoded] at inside
  case direct =>
    obtain rfl := List.mem_singleton.mp inside
    exact .path (.name known)
  case bytes => exact buffer known inside
  all_goals exact buffer (isIdentifier_bufferIdent known) inside

/-- The decoded value can be told from any other. -/
theorem Emittable.isLegible_decode (emittable : Emittable module) {type : TypeRef}
    {decoding : Call.ResultDecoding} (decodes : Decodes module type decoding) {raw : String}
    (known : Name.isIdentifier raw = true) : (decoding.decode (.name raw)).IsLegible := by
  have framed : (Expr.call (.name "readPointer") (.name raw)).IsLegible :=
    .call (.name (by decide)) (.path (.name known))
  have text : (Expr.call (.name "decode") (.call (.name "readPointer") (.name raw))).IsLegible :=
    .call (.name (by decide)) framed
  cases decodes with
  | direct => exact .path (.name known)
  | text => exact text
  | bytes => exact framed
  | structured inside =>
      exact .cast (.property (by decide) (by decide)) text (emittable.isLegibleType inside)
  | fixed inside =>
      have unpack : Name.isIdentifier "__unpack_" = true := by decide
      exact .call (.name (isIdentifier_append unpack (emittable.isIdentifier inside))) framed

theorem Emittable.isLegible_result (emittable : Emittable module) {signature : Signature}
    {result : Call.Result} (plans : PlansResult module signature result) :
    IsLegibleAnnotation result.annotation ∧ result.returned.IsLegible := by
  have legible := emittable.isLegibleType_of_decodes plans.decodes
  have raw : Name.isIdentifier Call.rawResult = true := by decide
  have pointer : Name.isIdentifier "ptr" = true := by decide
  constructor
  · rw [Call.Result.annotation, plans.host]
    split
    · exact legible
    · exact legible.annotation
  · rw [Call.Result.returned]
    split
    · exact .path (.name raw)
    · exact emittable.isLegible_decode plans.decodes raw
    · exact .call (.property raw (by decide))
        (.arrow pointer (emittable.isLegible_decode plans.decodes pointer))

/-- The wrapper of a plan can be read. -/
theorem Emittable.isReadable_wrapper (emittable : Emittable module) {signature : Signature}
    {plan : Plan} (plans : Plans module signature plan) (legible : plan.wrapper.IsLegible) :
    plan.wrapper.IsReadable where
  toIsLegible := legible
  known_params := by
    intro entry inside
    obtain ⟨param, held, rfl⟩ := List.mem_map.mp inside
    obtain ⟨source, -, asked⟩ := exists_item_of_forall₂ plans.params held
    exact ⟨asked.isIdentifier_ident, asked.host ▸ emittable.isLegibleType_of_encodes asked.encodes⟩
  legible_annotation := (emittable.isLegible_result plans.result).1
  known_setup := by
    intro constant inside
    obtain ⟨param, held, made⟩ := List.mem_filterMap.mp inside
    obtain ⟨source, -, asked⟩ := exists_item_of_forall₂ plans.params held
    exact emittable.isLegible_setup asked made
  known_rawResult := (by decide : Name.isIdentifier Call.rawResult = true)
  legible_arguments := by
    intro argument inside
    obtain ⟨param, held, made⟩ := List.mem_flatMap.mp inside
    obtain ⟨source, -, asked⟩ := exists_item_of_forall₂ plans.params held
    exact isLegible_argument asked made
  legible_returned := (emittable.isLegible_result plans.result).2

/-- An emitted module is made of one plan for each function, with a wrapper that can be read. -/
theorem exists_plans_of_emit (built : draft.build = .ok module)
    (emitted : emit module config = .ok glue) :
    ∃ plans, List.Forall₂ (Plans module) module.signatures plans ∧
      (∀ plan ∈ plans, plan.wrapper.IsReadable) ∧ glue.symbols = plans.map Plan.symbol ∧
      glue.wrappers = plans.map Plan.wrapper ∧
      glue.helpers = HelperSet.unions (plans.map Plan.helpers) := by
  have emittable := emittable_of_emit built emitted
  obtain ⟨plans, declared, planned, -, rfl⟩ := emit_eq_ok emitted
  refine ⟨plans, forall₂_of_mapM_eq_ok (fun _ _ _ => plans_of_ofSignature emittable) planned, ?_,
    rfl, rfl, rfl⟩
  intro plan held
  obtain ⟨signature, inside, own⟩ := exists_source_of_mapM_eq_ok planned held
  exact emittable.isReadable_wrapper (plans_of_ofSignature emittable own)
    (emittable.isLegible_wrapper inside own).1

/-- The wrappers of plans are read from their texts. -/
theorem map_readWrapper? {plans : List Plan} (readable : ∀ plan ∈ plans, plan.wrapper.IsReadable)
    (exported : Bool) :
    ((plans.map Plan.wrapper).map fun wrapper =>
      readWrapper? (wrapperText exported wrapper).toList) =
        (plans.map fun plan => plan.wrapper.code).map some := by
  rw [List.map_map, List.map_map]
  refine List.map_congr_left fun plan inside => ?_
  rw [Function.comp_apply, readWrapper?_wrapperText (readable plan inside), Function.comp_apply]

end Glue
end ForeignBindings
