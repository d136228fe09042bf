import ForeignBindings.Proofs.Glue.CallPlans
import Mathlib.Data.List.Nodup

/-!
# Native calls match the symbol table

The wrapper of a function and its row in the symbol table are printed from different data, the one
from the encodings of the parameters and the other from their native kinds.  Read back from the text,
the arguments of the call stand at the positions of the tokens that they belong to, every buffer among
them is a parameter or a constant that is defined before the call, and no two names that a wrapper
introduces are the same.
-/

namespace ForeignBindings
namespace Glue

/-- The name of the buffer that is made for the parameter at an index. -/
def bufferName (index : Nat) : String :=
  Call.paramIdent index ++ "Buf"

/-- The tokens of a buffer and its length with the arguments that are passed for them. -/
def bufferSlots (buffer : String) : List (String × Expr) :=
  [("buffer", .name buffer), ("usize", .property (.name buffer) "byteLength")]

/-- The tokens of a parameter with the arguments that are passed for them: a scalar stands for itself,
bytes are a buffer, and a buffer is made for everything else. -/
def nativeSlots : TypeRef × Nat → List (String × Expr)
  | (.primitive .str, index) => bufferSlots (bufferName index)
  | (.primitive primitive, index) =>
      if primitive.isBufferLike then bufferSlots (Call.paramIdent index)
      else [(primitive.token, .name (Call.paramIdent index))]
  | (.declared _, index) => bufferSlots (bufferName index)

/-- The name of the buffer that a parameter needs beside itself. -/
def ownBuffer? : TypeRef × Nat → Option String
  | (.primitive .str, index) | (.declared _, index) => some (bufferName index)
  | (.primitive _, _) => none

/-- The value that calls and functions are applied to in an expression. -/
def Expr.subject : Expr → Expr
  | .name identifier => .name identifier
  | .property object key => .property object key
  | .call _ argument => argument.subject
  | .cast value _ => value.subject
  | .arrow _ body => body.subject

/-- The parameters of the functions in an expression. -/
def Expr.parameters : Expr → List String
  | .name _ => []
  | .property object _ => object.parameters
  | .call function argument => function.parameters ++ argument.parameters
  | .cast value _ => value.parameters
  | .arrow parameter body => parameter :: body.parameters

/-- The expressions of a wrapper, in order. -/
def WrapperCode.expressions (code : WrapperCode) : List Expr :=
  code.setup.map Prod.snd ++ code.call.arguments ++ [code.returned]

/-- The names that a wrapper introduces: its parameters, the constants before the call, the native
result and the parameters of functions within it. -/
def WrapperCode.introduced (code : WrapperCode) : List String :=
  code.params.map Prod.fst ++ code.setup.map Prod.fst ++ [code.call.result] ++
    code.expressions.flatMap Expr.parameters

/-- Whether the wrapper of a function and the row of the symbol table fit together. -/
structure CallMatches (signature : Signature) (entry : SymbolEntry) (code : WrapperCode) :
    Prop where
  /-- The row is that of the function. -/
  entry_name : entry.name = signature.name
  /-- So is the wrapper. -/
  name : code.name = signature.name
  /-- The wrapper calls the native function of that name. -/
  symbol : code.call.symbol = signature.name
  /-- There is one parameter for each type, in order. -/
  params : code.params =
    signature.params.zipIdx.map fun entry => (Call.paramIdent entry.2, hostType entry.1)
  /-- As many arguments are passed as the row has tokens. -/
  same_length : code.call.arguments.length = entry.parameters.length
  /-- They stand at the positions of the tokens that they belong to. -/
  slots : entry.parameters.zip code.call.arguments = signature.params.zipIdx.flatMap nativeSlots
  /-- A buffer is made of every parameter that needs one, and of nothing else. -/
  setup : code.setup.map (fun constant => (constant.1, constant.2.subject)) =
    signature.params.zipIdx.filterMap fun entry =>
      (ownBuffer? entry).map fun buffer => (buffer, .name (Call.paramIdent entry.2))
  /-- The names in the wrapper are pairwise distinct. -/
  distinct : code.introduced.Nodup
  /-- The native result is a pointer exactly if it is read as one. -/
  pointer : entry.result = "pointer" ↔ "readPointer" ∈ code.returned.called

variable {draft : ModuleDraft} {module : BindingModule} {config : Config} {glue : Module}
  {signature : Signature} {plan : Plan}

/-- The tokens of a parameter and the arguments of the call belong together. -/
theorem PlansParam.slots {entry : TypeRef × Nat} {param : Call.Param}
    (plans : PlansParam module entry param) :
    param.native = (nativeSlots entry).map Prod.fst ∧
      param.arguments = (nativeSlots entry).map Prod.snd := by
  obtain ⟨type, index⟩ := entry
  obtain ⟨ident, host, encoding, native⟩ := param
  obtain ⟨rfl, rfl, encodes, rfl⟩ := plans
  cases encodes with
  | @direct primitive scalar => cases primitive <;> cases scalar <;> exact ⟨rfl, rfl⟩
  | @bytes primitive buffer untyped =>
      cases primitive with
      | str => exact absurd rfl untyped
      | buffer | bufferMut | ptr => exact ⟨rfl, rfl⟩
      | _ => cases buffer
  | text | structured | fixed => exact ⟨rfl, rfl⟩

/-- A buffer is made of a parameter exactly if it is neither a scalar nor bytes. -/
theorem PlansParam.setup {entry : TypeRef × Nat} {param : Call.Param}
    (plans : PlansParam module entry param) :
    param.setup?.map (fun constant => (constant.1, constant.2.subject)) =
      (ownBuffer? entry).map fun buffer => (buffer, .name (Call.paramIdent entry.2)) := by
  obtain ⟨type, index⟩ := entry
  obtain ⟨ident, host, encoding, native⟩ := param
  obtain ⟨rfl, rfl, encodes, rfl⟩ := plans
  cases encodes with
  | @direct primitive scalar => cases primitive <;> cases scalar <;> rfl
  | @bytes primitive buffer untyped =>
      cases primitive with
      | str => exact absurd rfl untyped
      | buffer | bufferMut | ptr => rfl
      | _ => cases buffer
  | text | structured | fixed => rfl

/-- No function stands in what a parameter is encoded to or in the arguments of the call. -/
theorem parameters_of_param (param : Call.Param) {value : Expr}
    (inside : value ∈ param.setup?.toList.map Prod.snd ++ param.arguments) :
    value.parameters = [] := by
  obtain ⟨ident, host, encoding, native⟩ := param
  cases encoding <;>
    simp only [Call.Param.setup?, Call.Param.arguments, Call.Param.bufferArguments,
      Option.toList_none, Option.toList_some, List.map_nil, List.map_cons, List.nil_append,
      List.cons_append, List.mem_cons, List.not_mem_nil, or_false] at inside <;>
    rcases inside with rfl | rfl | rfl <;> rfl

/-- The native result is a pointer exactly if the returned value reads it as one. -/
theorem PlansResult.pointer {result : Call.Result} (plans : PlansResult module signature result) :
    result.native = "pointer" ↔ "readPointer" ∈ result.returned.called := by
  obtain ⟨host, decoding, native, nonBlocking⟩ := result
  obtain ⟨-, decodes, rfl, -⟩ := plans
  generalize signature.result = type at decodes ⊢
  cases decodes with
  | @direct primitive scalar =>
      have value : (NativeKind.ofPrimitive primitive).resultToken ≠ "pointer" := by
        cases primitive <;> cases scalar <;> decide
      exact iff_of_false value List.not_mem_nil
  | @bytes primitive buffer untyped =>
      have pointer : (NativeKind.ofPrimitive primitive).resultToken = "pointer" := by
        cases primitive <;> cases buffer <;> rfl
      refine iff_of_true pointer ?_
      cases nonBlocking <;> exact List.mem_cons_self
  | text =>
      refine iff_of_true rfl ?_
      cases nonBlocking <;> exact List.mem_cons_of_mem _ List.mem_cons_self
  | structured =>
      refine iff_of_true rfl ?_
      cases nonBlocking <;> exact List.mem_cons_of_mem _ List.mem_cons_self
  | fixed =>
      refine iff_of_true rfl ?_
      cases nonBlocking <;> exact List.mem_cons_of_mem _ List.mem_cons_self

theorem parameters_decode (decoding : Call.ResultDecoding) (raw : String) :
    (decoding.decode (.name raw)).parameters = [] := by
  cases decoding <;> rfl

theorem parameters_returned (result : Call.Result) :
    result.returned.parameters = [] ∨ result.returned.parameters = ["ptr"] := by
  rw [Call.Result.returned]
  split
  · exact .inl rfl
  · exact .inl (parameters_decode _ _)
  · exact .inr (congrArg (["ptr"] ++ ·) (parameters_decode _ _))

theorem paramIdent_injective {index other : Nat}
    (same : Call.paramIdent index = Call.paramIdent other) : index = other := by
  have spelled := congrArg String.toList same
  rw [toList_paramIdent, toList_paramIdent] at spelled
  rw [← Nat.ofDigitChars_ten_toDigits (n := index), (List.cons.inj spelled).2,
    Nat.ofDigitChars_ten_toDigits]

theorem bufferName_injective {index other : Nat} (same : bufferName index = bufferName other) :
    index = other :=
  paramIdent_injective ((String.append_left_inj "Buf").mp same)

theorem eq_or_isDigit_of_mem_paramIdent {index : Nat} {letter : Char}
    (inside : letter ∈ (Call.paramIdent index).toList) : letter = 'a' ∨ letter.isDigit = true := by
  rw [toList_paramIdent, List.mem_cons] at inside
  exact inside.imp_right (Nat.isDigit_of_mem_toDigits (by decide) (by decide))

/-- No parameter is named like a buffer. -/
theorem paramIdent_ne_bufferName (index other : Nat) : Call.paramIdent index ≠ bufferName other := by
  intro same
  have capital : 'B' ∈ (bufferName other).toList := by
    rw [bufferName, String.toList_append]
    exact List.mem_append_right _ List.mem_cons_self
  obtain capital | capital := eq_or_isDigit_of_mem_paramIdent (same ▸ capital)
  · cases capital
  · cases capital

/-- The names of parameters and of their buffers have no `r` in them. -/
theorem not_mem_r {name : String} {index : Nat}
    (named : name = Call.paramIdent index ∨ name = bufferName index) : 'r' ∉ name.toList := by
  have plain : 'r' ∉ (Call.paramIdent index).toList := by
    intro inside
    obtain inside | inside := eq_or_isDigit_of_mem_paramIdent inside
    · cases inside
    · cases inside
  obtain rfl | rfl := named
  · exact plain
  · rw [bufferName, String.toList_append, List.mem_append]
    exact not_or.mpr ⟨plain, by decide⟩

theorem eq_bufferName_of_ownBuffer? {entry : TypeRef × Nat} {buffer : String}
    (made : ownBuffer? entry = some buffer) : buffer = bufferName entry.2 := by
  unfold ownBuffer? at made
  split at made
  case h_1 | h_2 =>
    cases made
    rfl
  case h_3 => cases made

/-- Parameters, buffers, the native result and its pointer all have names of their own. -/
theorem names_nodup (types : List TypeRef) :
    (types.zipIdx.map (fun entry => Call.paramIdent entry.2) ++ types.zipIdx.filterMap ownBuffer? ++
      ["rawResult", "ptr"]).Nodup := by
  have indices : types.zipIdx.Pairwise fun entry other => entry.2 ≠ other.2 := by
    rw [← List.pairwise_map, List.zipIdx_map_snd]
    exact List.nodup_range'
  have buffers {name : String} (inside : name ∈ types.zipIdx.filterMap ownBuffer?) :
      ∃ index, name = bufferName index := by
    obtain ⟨entry, -, made⟩ := List.mem_filterMap.mp inside
    exact ⟨entry.2, eq_bufferName_of_ownBuffer? made⟩
  have numbered {name : String}
      (inside : name ∈ types.zipIdx.map (fun entry => Call.paramIdent entry.2)) :
      ∃ index, name = Call.paramIdent index := by
    obtain ⟨entry, -, rfl⟩ := List.mem_map.mp inside
    exact ⟨entry.2, rfl⟩
  refine List.nodup_append'.mpr ⟨List.nodup_append'.mpr ⟨?_, ?_, ?_⟩, by decide, ?_⟩
  · exact List.pairwise_map.mpr (indices.imp fun other same => other (paramIdent_injective same))
  · refine List.pairwise_filterMap.mpr (indices.imp fun other first made second again same => ?_)
    rw [eq_bufferName_of_ownBuffer? made, eq_bufferName_of_ownBuffer? again] at same
    exact other (bufferName_injective same)
  · intro name param buffer
    obtain ⟨index, rfl⟩ := numbered param
    obtain ⟨other, same⟩ := buffers buffer
    exact paramIdent_ne_bufferName index other same
  · intro name inside fixed
    have letter : 'r' ∈ name.toList := by
      simp only [List.mem_cons, List.not_mem_nil, or_false] at fixed
      obtain rfl | rfl := fixed <;> decide
    obtain param | buffer := List.mem_append.mp inside
    · obtain ⟨index, named⟩ := numbered param
      exact not_mem_r (.inl named) letter
    · obtain ⟨index, named⟩ := buffers buffer
      exact not_mem_r (.inr named) letter

/-- What is made of the parameters of a plan is made of the types of the function. -/
theorem Plans.flatMap_eq {β : Type} (plans : Plans module signature plan)
    {before : TypeRef × Nat → List β} {after : Call.Param → List β}
    (same : ∀ entry param, PlansParam module entry param → after param = before entry) :
    plan.params.flatMap after = signature.params.zipIdx.flatMap before := by
  rw [List.flatMap_def, List.flatMap_def, map_eq_of_forall₂ same plans.params]

theorem Plans.setup_eq (plans : Plans module signature plan) :
    plan.wrapper.setup.map (fun constant => (constant.1, constant.2.subject)) =
      signature.params.zipIdx.filterMap fun entry =>
        (ownBuffer? entry).map fun buffer => (buffer, .name (Call.paramIdent entry.2)) := by
  rw [Plan.wrapper, List.map_filterMap, List.filterMap_eq_flatMap_toList,
    List.filterMap_eq_flatMap_toList]
  exact plans.flatMap_eq fun entry param asked => congrArg Option.toList asked.setup

/-- The only function in a wrapper is the one that gets the pointer of a promise. -/
theorem parameters_expressions (plan : Plan) :
    plan.wrapper.code.expressions.flatMap Expr.parameters = plan.result.returned.parameters := by
  have none : (plan.wrapper.setup.map Prod.snd ++ plan.wrapper.arguments).flatMap
      Expr.parameters = [] := by
    refine List.flatMap_eq_nil_iff.mpr fun value inside => ?_
    obtain inside | inside := List.mem_append.mp inside
    · obtain ⟨constant, held, rfl⟩ := List.mem_map.mp inside
      obtain ⟨param, -, made⟩ := List.mem_filterMap.mp held
      refine parameters_of_param param (List.mem_append_left _ ?_)
      rw [made]
      exact List.mem_cons_self
    · obtain ⟨param, -, made⟩ := List.mem_flatMap.mp inside
      exact parameters_of_param param (List.mem_append_right _ made)
  rw [WrapperCode.expressions, List.flatMap_append]
  exact (congrArg (· ++ _) none).trans (List.append_nil _)

/-- No two of the names that a wrapper introduces are the same. -/
theorem Plans.introduced_nodup (plans : Plans module signature plan) :
    plan.wrapper.code.introduced.Nodup := by
  have params : plan.wrapper.params.map Prod.fst =
      signature.params.zipIdx.map fun entry => Call.paramIdent entry.2 := by
    rw [Plan.wrapper, List.map_map]
    exact map_eq_of_forall₂ (fun entry param asked => asked.ident) plans.params
  have setup : plan.wrapper.setup.map Prod.fst = signature.params.zipIdx.filterMap ownBuffer? := by
    have names := congrArg (List.map Prod.fst) plans.setup_eq
    simpa [List.map_map, List.map_filterMap, Function.comp_def] using names
  have split : plan.wrapper.code.introduced =
      plan.wrapper.params.map Prod.fst ++ plan.wrapper.setup.map Prod.fst ++
        (["rawResult"] ++ plan.result.returned.parameters) := by
    rw [← parameters_expressions, ← List.append_assoc]
    rfl
  have last : (["rawResult"] ++ plan.result.returned.parameters).Sublist ["rawResult", "ptr"] := by
    obtain none | pointer := parameters_returned plan.result
    · rw [none]
      exact List.sublist_append_left ["rawResult"] ["ptr"]
    · rw [pointer]
      exact .refl _
  rw [split, params, setup]
  exact (names_nodup signature.params).sublist (List.Sublist.append_left last _)

/-- The tokens of a function and the arguments of its call are the slots of its parameters. -/
theorem Plans.slots (plans : Plans module signature plan) :
    (signature.params.zipIdx.flatMap nativeSlots).map Prod.fst = plan.symbol.parameters ∧
      (signature.params.zipIdx.flatMap nativeSlots).map Prod.snd = plan.wrapper.arguments := by
  rw [List.map_flatMap, List.map_flatMap]
  exact ⟨(plans.flatMap_eq fun entry param asked => asked.slots.1).symm,
    (plans.flatMap_eq fun entry param asked => asked.slots.2).symm⟩

/-- The wrapper of a plan fits together with its row of the symbol table. -/
theorem Plans.callMatches (plans : Plans module signature plan) :
    CallMatches signature plan.symbol plan.wrapper.code where
  entry_name := congrArg Signature.name plans.planned
  name := congrArg Signature.name plans.planned
  symbol := congrArg Signature.name plans.planned
  params := map_eq_of_forall₂
    (fun entry param asked => Prod.ext asked.ident asked.host) plans.params
  same_length := by
    have tokens := congrArg List.length plans.slots.1
    have arguments := congrArg List.length plans.slots.2
    rw [List.length_map] at tokens arguments
    exact arguments.symm.trans tokens
  slots := (List.zip_of_prod plans.slots.1 plans.slots.2).symm
  setup := plans.setup_eq
  distinct := plans.introduced_nodup
  pointer := plans.result.pointer

/-- Read from the text of an emitted module, there is one row of the symbol table and one wrapper for
each function, in order.  The wrapper has one parameter for each type, passes as many arguments as the
row has tokens, each at the position of the token that it belongs to, makes every buffer that it
passes beside its parameters, introduces no name twice, and reads the result as a pointer exactly if
the row says that it is one. -/
theorem calls_match_symbol_table (built : draft.build = .ok module)
    (emitted : emit module config = .ok glue) :
    symbolsText glue.symbols ∈ glue.parts ∧
      glue.wrappers.map (wrapperText glue.exported) <:+ glue.parts ∧
      glue.Shows (symbolsText glue.symbols) ∧
      glue.Shows (String.join (glue.wrappers.map (wrapperText glue.exported))) ∧
      ∃ sites : List (SymbolEntry × WrapperCode),
        readSymbols? (symbolsText glue.symbols).toList = some (sites.map Prod.fst) ∧
        (glue.wrappers.map fun wrapper =>
          readWrapper? (wrapperText glue.exported wrapper).toList) =
            sites.map (fun site => some site.2) ∧
        List.Forall₂ (fun signature site => CallMatches signature site.1 site.2)
          module.signatures sites := by
  obtain ⟨plans, planned, readable, symbols, wrappers, -⟩ := exists_plans_of_emit built emitted
  have table : symbolsText glue.symbols ∈ glue.parts := by simp [Module.parts]
  have printed : glue.wrappers.map (wrapperText glue.exported) <:+ glue.parts :=
    List.suffix_append _ _
  refine ⟨table, printed, Module.shows_of_mem table, Module.shows_join printed.isInfix,
    plans.map fun plan => (plan.symbol, plan.wrapper.code), ?_, ?_, ?_⟩
  · rw [readSymbols?_symbolsText, symbols, List.map_map]
    rfl
  · rw [wrappers, map_readWrapper? readable, List.map_map, List.map_map]
    rfl
  · exact List.forall₂_map_right_iff.mpr (planned.imp fun signature plan asked => asked.callMatches)

/-- A function that takes a parameter of every kind and promises a packed result. -/
def sketchSignature : Signature :=
  ⟨"sketch", [.primitive .str, .primitive .i32, .primitive .bufferMut, .declared "Style",
    .declared "Point"], .declared "Point", true, some "Draws a text."⟩

/-- That function with its two types. -/
def sketchDraft : ModuleDraft :=
  ModuleDraft.empty "sketches"
    |>.addType ⟨"Point", .struct ⟨.ofList [("x", .primitive .f32)], .fixed⟩, none, none⟩
    |>.addType ⟨"Style", .struct ⟨.ofList [("color", .primitive .str)], .structured⟩, none, none⟩
    |>.addSignature sketchSignature

/-- The module of that draft. -/
def sketchModule : BindingModule :=
  ⟨"sketches", sketchDraft.options, ⟨sketchDraft.types.toArray⟩, [sketchSignature]⟩

/-- Five parameters take nine native arguments, three of them in buffers of their own. -/
theorem calls_match_symbol_table_sketchModule :
    sketchDraft.build = .ok sketchModule ∧
      ∃ glue entry code, emit sketchModule Config.default = .ok glue ∧
        readSymbols? (symbolsText glue.symbols).toList = some [entry] ∧
        (glue.wrappers.map fun wrapper =>
          readWrapper? (wrapperText glue.exported wrapper).toList) = [some code] ∧
        CallMatches sketchSignature entry code ∧
        entry.parameters.zip code.call.arguments =
          bufferSlots "a0Buf" ++ [("i32", .name "a1")] ++ bufferSlots "a2" ++ bufferSlots "a3Buf" ++
            bufferSlots "a4Buf" := by
  have built : sketchDraft.build = .ok sketchModule := by decide
  obtain ⟨glue, emitted⟩ := (exists_emit_eq_ok_iff built Config.default).mpr
    (BindingModule.faults_eq_nil_iff.mp (by decide))
  obtain ⟨-, -, -, -, sites, symbols, wrappers, fit⟩ := calls_match_symbol_table built emitted
  obtain ⟨⟨entry, code⟩, others, fits, none, rfl⟩ := List.forall₂_cons_left_iff.mp fit
  obtain rfl := List.forall₂_nil_left_iff.mp none
  exact ⟨built, glue, entry, code, emitted, symbols, wrappers, fits, fits.slots.trans (by decide)⟩

end Glue
end ForeignBindings
