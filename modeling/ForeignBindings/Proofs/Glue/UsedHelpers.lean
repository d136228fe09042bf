import ForeignBindings.Proofs.Glue.CallSites
import ForeignBindings.Proofs.Glue.Names

/-!
# Helpers are declared exactly if they are used

Three helper functions are declared for the wrappers that call them, and two for each packed type
whether or not a wrapper does.  Read back from the text, no wrapper calls a helper that is not
declared, none of the three is declared that no wrapper calls, and packed values stay out of
structured text.
-/

namespace ForeignBindings
namespace Glue

/-- The helper functions that wrappers share. -/
def sharedHelpers : List String :=
  ["encode", "decode", "readPointer"]

/-- The methods of named objects that an expression calls. -/
def Expr.methods : Expr → List (String × String)
  | .name _ => []
  | .property object _ => object.methods
  | .call (.property (.name object) key) argument => (object, key) :: argument.methods
  | .call function argument => function.methods ++ argument.methods
  | .cast value _ => value.methods
  | .arrow _ body => body.methods

/-- The functions that the constants and the returned value of a wrapper call. -/
def WrapperCode.called (code : WrapperCode) : List String :=
  code.setup.flatMap (fun constant => constant.2.called) ++ code.returned.called

/-- Whether the values of a type are packed. -/
def IsPacked (module : BindingModule) (type : TypeRef) : Prop :=
  ∃ decl ∈ module.types.toList, decl.isFixedLayout = true ∧ type = .declared decl.name

/-- Whether the helpers that a text declares are those that the wrappers of a module call. -/
structure HelpersMatch (module : BindingModule) (found : List Declared)
    (codes : List WrapperCode) : Prop where
  /-- A shared helper is declared once if a wrapper calls it. -/
  used : ∀ name ∈ sharedHelpers, (∃ code ∈ codes, name ∈ code.called) →
    (valueNames found).count name = 1
  /-- It is not declared if no wrapper does. -/
  unused : ∀ name ∈ sharedHelpers, (∀ code ∈ codes, name ∉ code.called) →
    (valueNames found).count name = 0
  /-- Only for packed types do wrappers call functions that pack or unpack, and both are declared
  once. -/
  packed : ∀ code ∈ codes, ∀ typeName,
    Call.packName typeName ∈ code.called ∨ Call.unpackName typeName ∈ code.called →
      IsPacked module (.declared typeName) ∧
        (valueNames found).count (Call.packName typeName) = 1 ∧
        (valueNames found).count (Call.unpackName typeName) = 1
  /-- Nothing else is called as a function. -/
  nothing_else : ∀ code ∈ codes, ∀ name ∈ code.called, name ∈ sharedHelpers ∨
    ∃ typeName, name = Call.packName typeName ∨ name = Call.unpackName typeName
  /-- The arguments of the native call call nothing. -/
  arguments : ∀ code ∈ codes, ∀ argument ∈ code.call.arguments, argument.called = []

/-- Whether a wrapper turns no packed value into structured text and reads none from it. -/
structure KeepsPacked (module : BindingModule) (signature : Signature) (code : WrapperCode) :
    Prop where
  /-- What is turned into structured text is a parameter that is not packed. -/
  stringified : ∀ value ∈ code.expressions, ("JSON", "stringify") ∈ value.methods →
    ∃ entry ∈ signature.params.zipIdx,
      value.subject = .name (Call.paramIdent entry.2) ∧ ¬ IsPacked module entry.1
  /-- What is read from structured text is the result, and it is not packed. -/
  parsed : ∀ value ∈ code.expressions, ("JSON", "parse") ∈ value.methods →
    value = code.returned ∧ ¬ IsPacked module signature.result

variable {draft : ModuleDraft} {module : BindingModule} {config : Config} {glue : Module}
  {signature : Signature} {plan : Plan} {name : String}

theorem mem_names_union {left right : HelperSet} :
    name ∈ (left.union right).names ↔ name ∈ left.names ∨ name ∈ right.names := by
  simp only [HelperSet.union, HelperSet.names, List.mem_append]
  grind

theorem mem_names_unions {users : List HelperSet} :
    name ∈ (HelperSet.unions users).names ↔ ∃ user ∈ users, name ∈ user.names := by
  induction users with
  | nil => simp [HelperSet.unions, HelperSet.none, HelperSet.names]
  | cons user users induction =>
      have split : HelperSet.unions (user :: users) = user.union (HelperSet.unions users) := rfl
      rw [split, mem_names_union, induction, List.exists_mem_cons_iff]

/-- What the constant of a parameter calls are its helpers or the function that packs it. -/
theorem mem_called_setup {param : Call.Param} :
    (∃ constant, param.setup? = some constant ∧ name ∈ constant.2.called) ↔
      name ∈ param.helpers.names ∨
        ∃ typeName, param.encoding = .fixed typeName ∧ name = Call.packName typeName := by
  obtain ⟨ident, host, encoding, native⟩ := param
  cases encoding <;>
    simp [Call.Param.setup?, Call.Param.helpers, HelperSet.none, HelperSet.names, Expr.called]

/-- What the returned value calls are the helpers of the result or the function that unpacks it. -/
theorem mem_called_returned {result : Call.Result} :
    name ∈ result.returned.called ↔ name ∈ result.helpers.names ∨
      ∃ typeName, result.decoding = .fixed typeName ∧ name = Call.unpackName typeName := by
  obtain ⟨host, decoding, native, nonBlocking⟩ := result
  cases decoding <;> cases nonBlocking <;>
    simp [Call.Result.returned, Call.ResultDecoding.decode, Call.Result.helpers, HelperSet.none,
      HelperSet.names, Expr.called, or_comm]

/-- What the constants of a wrapper call are the helpers of its parameters and the functions that pack
them. -/
theorem mem_called_constants (plan : Plan) :
    (∃ constant ∈ plan.wrapper.setup, name ∈ constant.2.called) ↔
      (∃ param ∈ plan.params, name ∈ param.helpers.names) ∨
        ∃ param ∈ plan.params, ∃ typeName,
          param.encoding = .fixed typeName ∧ name = Call.packName typeName := by
  have sources : (∃ constant ∈ plan.wrapper.setup, name ∈ constant.2.called) ↔
      ∃ param ∈ plan.params, ∃ constant, param.setup? = some constant ∧
        name ∈ constant.2.called := by
    simp only [Plan.wrapper, List.mem_filterMap]
    constructor
    · rintro ⟨constant, ⟨param, inside, made⟩, calls⟩
      exact ⟨param, inside, constant, made, calls⟩
    · rintro ⟨param, inside, constant, made, calls⟩
      exact ⟨constant, ⟨param, inside, made⟩, calls⟩
  rw [sources]
  simp only [mem_called_setup, and_or_left, exists_or]

/-- What a wrapper calls are the helpers of its plan and the functions that pack and unpack. -/
theorem mem_called (plan : Plan) :
    name ∈ plan.wrapper.code.called ↔ name ∈ plan.helpers.names ∨
      (∃ param ∈ plan.params, ∃ typeName,
        param.encoding = .fixed typeName ∧ name = Call.packName typeName) ∨
      ∃ typeName, plan.result.decoding = .fixed typeName ∧ name = Call.unpackName typeName := by
  have helpers : name ∈ plan.helpers.names ↔
      (∃ param ∈ plan.params, name ∈ param.helpers.names) ∨ name ∈ plan.result.helpers.names := by
    rw [Plan.helpers, mem_names_union, mem_names_unions]
    simp only [List.mem_map, exists_exists_and_eq_and]
  have split : name ∈ plan.wrapper.code.called ↔
      (∃ constant ∈ plan.wrapper.setup, name ∈ constant.2.called) ∨
        name ∈ plan.result.returned.called := by
    rw [WrapperCode.called, List.mem_append, List.mem_flatMap]
    rfl
  rw [split, mem_called_constants, mem_called_returned, helpers, or_or_or_comm]

theorem mem_sharedHelpers_of_mem_names {helpers : HelperSet} (inside : name ∈ helpers.names) :
    name ∈ sharedHelpers := by
  rcases helpers with ⟨encode, decode, readPointer⟩
  revert inside
  cases encode <;> cases decode <;> cases readPointer <;>
    simp +contextual [HelperSet.names, sharedHelpers, or_imp]

/-- No shared helper is named like a function that packs or unpacks. -/
theorem not_mem_sharedHelpers (typeName : String) :
    Call.packName typeName ∉ sharedHelpers ∧ Call.unpackName typeName ∉ sharedHelpers := by
  have shared : sharedHelpers ⊆ preambleBindings := by decide
  constructor
  · intro inside
    refine not_mem_preambleBindings_of_helper (.inl ?_) (shared inside)
    rw [Call.packName, String.toList_append]
    exact List.prefix_append _ _
  · intro inside
    refine not_mem_preambleBindings_of_helper (.inr ?_) (shared inside)
    rw [Call.unpackName, String.toList_append]
    exact List.prefix_append _ _

/-- A wrapper calls a shared helper exactly if its plan asks for it. -/
theorem mem_called_iff_of_shared (plan : Plan) (shared : name ∈ sharedHelpers) :
    name ∈ plan.wrapper.code.called ↔ name ∈ plan.helpers.names := by
  rw [mem_called, or_iff_left]
  rintro (⟨-, -, typeName, -, rfl⟩ | ⟨typeName, -, rfl⟩)
  · exact (not_mem_sharedHelpers typeName).1 shared
  · exact (not_mem_sharedHelpers typeName).2 shared

theorem Encodes.isPacked {type : TypeRef} {typeName : String}
    (encodes : Encodes module type (.fixed typeName)) : IsPacked module (.declared typeName) := by
  cases encodes with
  | fixed inside fixed => exact ⟨_, inside, fixed, rfl⟩

theorem Decodes.isPacked {type : TypeRef} {typeName : String}
    (decodes : Decodes module type (.fixed typeName)) : IsPacked module (.declared typeName) := by
  cases decodes with
  | fixed inside fixed => exact ⟨_, inside, fixed, rfl⟩

/-- The functions that pack and unpack are called for packed types only. -/
theorem Plans.isPacked (plans : Plans module signature plan) {typeName : String}
    (calls : Call.packName typeName ∈ plan.wrapper.code.called ∨
      Call.unpackName typeName ∈ plan.wrapper.code.called) :
    IsPacked module (.declared typeName) := by
  have shared := not_mem_sharedHelpers typeName
  rw [mem_called, mem_called] at calls
  obtain (own | ⟨param, inside, other, encoding, same⟩ | ⟨other, decoding, same⟩) |
    (own | ⟨param, inside, other, encoding, same⟩ | ⟨other, decoding, same⟩) := calls
  · exact absurd (mem_sharedHelpers_of_mem_names own) shared.1
  · obtain rfl := (String.append_right_inj "__pack_").mp same
    obtain ⟨entry, -, asked⟩ := exists_item_of_forall₂ plans.params inside
    exact (encoding ▸ asked.encodes).isPacked
  · exact absurd same (packName_ne_unpackName _ _)
  · exact absurd (mem_sharedHelpers_of_mem_names own) shared.2
  · exact absurd same.symm (packName_ne_unpackName _ _)
  · obtain rfl := (String.append_right_inj "__unpack_").mp same
    exact (decoding ▸ plans.result.decodes).isPacked

/-- The arguments of the native call call nothing. -/
theorem called_argument {param : Call.Param} {argument : Expr}
    (inside : argument ∈ param.arguments) : argument.called = [] ∧ argument.methods = [] := by
  obtain ⟨ident, host, encoding, native⟩ := param
  cases encoding <;>
    simp only [Call.Param.arguments, Call.Param.bufferArguments, List.mem_cons, List.not_mem_nil,
      or_false] at inside <;>
    rcases inside with rfl | rfl <;> exact ⟨rfl, rfl⟩

/-- Only the constant of a structured parameter is made by a method. -/
theorem methods_setup {param : Call.Param} {constant : String × Expr}
    (made : param.setup? = some constant) {method : String × String}
    (inside : method ∈ constant.2.methods) :
    method ≠ ("JSON", "parse") ∧ param.encoding = .structured := by
  obtain ⟨ident, host, encoding, native⟩ := param
  cases encoding <;> cases made <;> simp [Expr.methods] at inside
  case structured =>
    subst inside
    exact ⟨by decide, rfl⟩

/-- A returned value is made by methods only of a promise or of structured text. -/
theorem methods_returned {result : Call.Result} {method : String × String}
    (inside : method ∈ result.returned.methods) :
    method = (Call.rawResult, "then") ∨
      method = ("JSON", "parse") ∧ ∃ typeName, result.decoding = .structured typeName := by
  obtain ⟨host, decoding, native, nonBlocking⟩ := result
  cases decoding <;> cases nonBlocking <;>
    simp_all [Call.Result.returned, Call.ResultDecoding.decode, Expr.methods]

/-- A type is not packed if it has a declaration that is not. -/
theorem Emittable.not_isPacked (emittable : Emittable module) {decl : TypeDecl}
    (inside : decl ∈ module.types.toList) (structured : decl.isFixedLayout = false) :
    ¬ IsPacked module (.declared decl.name) := by
  rintro ⟨other, known, fixed, same⟩
  have found := (DeclSet.find?_eq_some_iff emittable.ordered).mpr ⟨inside, TypeRef.declared.inj same⟩
  have again := (DeclSet.find?_eq_some_iff emittable.ordered).mpr ⟨known, rfl⟩
  obtain rfl := Option.some.inj (found.symm.trans again)
  exact Bool.false_ne_true (structured.symm.trans fixed)

/-- The expressions of a wrapper are the values of its constants, arguments without methods and the
returned value. -/
theorem cases_of_mem_expressions {value : Expr} (inside : value ∈ plan.wrapper.code.expressions) :
    (∃ param ∈ plan.params, ∃ constant, param.setup? = some constant ∧ constant.2 = value) ∨
      value.methods = [] ∨ value = plan.result.returned := by
  obtain inside | last := List.mem_append.mp inside
  · obtain inside | inside := List.mem_append.mp inside
    · obtain ⟨constant, held, same⟩ := List.mem_map.mp inside
      obtain ⟨param, known, made⟩ := List.mem_filterMap.mp held
      exact .inl ⟨param, known, constant, made, same⟩
    · obtain ⟨param, -, made⟩ := List.mem_flatMap.mp inside
      exact .inr (.inl (called_argument made).2)
  · exact .inr (.inr (List.mem_singleton.mp last))

theorem Plans.keepsPacked (emittable : Emittable module) (plans : Plans module signature plan) :
    KeepsPacked module signature plan.wrapper.code := by
  constructor
  · intro value inside calls
    obtain ⟨param, known, constant, made, rfl⟩ | none | rfl := cases_of_mem_expressions inside
    · obtain ⟨-, structured⟩ := methods_setup made calls
      obtain ⟨⟨type, index⟩, held, asked⟩ := exists_item_of_forall₂ plans.params known
      refine ⟨(type, index), held, ?_, ?_⟩
      · have subject := asked.setup
        rw [made] at subject
        obtain ⟨buffer, -, same⟩ := Option.map_eq_some_iff.mp subject.symm
        exact (Prod.ext_iff.mp same).2.symm
      · have encodes := structured ▸ asked.encodes
        cases encodes with
        | structured inside unpacked => exact emittable.not_isPacked inside unpacked
    · exact absurd (none ▸ calls) List.not_mem_nil
    · obtain promise | ⟨parse, -⟩ := methods_returned calls
      · exact absurd promise (by decide)
      · exact absurd parse (by decide)
  · intro value inside calls
    obtain ⟨param, known, constant, made, rfl⟩ | none | rfl := cases_of_mem_expressions inside
    · exact absurd rfl (methods_setup made calls).1
    · exact absurd (none ▸ calls) List.not_mem_nil
    · refine ⟨rfl, ?_⟩
      obtain promise | ⟨-, typeName, structured⟩ := methods_returned calls
      · exact absurd promise (by decide)
      · have decodes := structured ▸ plans.result.decodes
        generalize signature.result = type at decodes ⊢
        cases decodes with
        | structured inside unpacked => exact emittable.not_isPacked inside unpacked

theorem mem_ownBindings_iff (glue : Module) :
    ∀ name ∈ sharedHelpers, (name ∈ glue.ownBindings ↔ name ∈ glue.helpers.names) := by
  rcases helpers : glue.helpers with ⟨encode, decode, readPointer⟩
  rw [Module.ownBindings, helpers]
  cases glue.lazyInit <;> cases encode <;> cases decode <;> cases readPointer <;> decide

/-- A shared helper is among the values of a module exactly if the module holds it. -/
theorem mem_valueNames_iff (emittable : Emittable module)
    (values : valueNames glue.declared = glue.ownBindings ++
      module.types.toList.flatMap helperNames ++ module.signatures.map Signature.name)
    (shared : name ∈ sharedHelpers) :
    name ∈ valueNames glue.declared ↔ name ∈ glue.helpers.names := by
  have bound : sharedHelpers ⊆ preambleBindings := by decide
  have noHelper : name ∉ module.types.toList.flatMap helperNames := by
    intro inside
    obtain ⟨decl, -, held⟩ := List.mem_flatMap.mp inside
    exact not_mem_preambleBindings_of_helper (shadows_of_mem_helperNames held) (bound shared)
  have noFunction : name ∉ module.signatures.map Signature.name := by
    intro inside
    obtain ⟨signature, held, rfl⟩ := List.mem_map.mp inside
    exact emittable.resolved.functions signature held (.inl (bound shared))
  rw [values, List.mem_append, List.mem_append, or_iff_left noFunction, or_iff_left noHelper,
    mem_ownBindings_iff glue name shared]

/-- The helpers that a module declares are those that the wrappers of its plans call. -/
theorem helpersMatch_of_plans (emittable : Emittable module)
    (values : valueNames glue.declared = glue.ownBindings ++
      module.types.toList.flatMap helperNames ++ module.signatures.map Signature.name)
    {plans : List Plan} (planned : List.Forall₂ (Plans module) module.signatures plans)
    (helpers : glue.helpers = HelperSet.unions (plans.map Plan.helpers)) :
    HelpersMatch module glue.declared (plans.map fun plan => plan.wrapper.code) := by
  have distinct : (valueNames glue.declared).Nodup := values ▸ emittable.values_nodup glue
  have declared_iff {name : String} (shared : name ∈ sharedHelpers) :
      name ∈ valueNames glue.declared ↔
        ∃ code ∈ plans.map fun plan => plan.wrapper.code, name ∈ code.called := by
    rw [mem_valueNames_iff emittable values shared, helpers, mem_names_unions]
    simp only [List.mem_map, exists_exists_and_eq_and, mem_called_iff_of_shared _ shared]
  constructor
  · exact fun name shared calls =>
      List.count_eq_one_of_mem distinct ((declared_iff shared).mpr calls)
  · intro name shared silent
    refine List.count_eq_zero_of_not_mem fun inside => ?_
    obtain ⟨code, known, calls⟩ := (declared_iff shared).mp inside
    exact silent code known calls
  · intro code inside typeName calls
    obtain ⟨plan, held, rfl⟩ := List.mem_map.mp inside
    obtain ⟨signature, -, asked⟩ := exists_item_of_forall₂ planned held
    obtain ⟨decl, known, fixed, same⟩ := asked.isPacked calls
    obtain rfl := TypeRef.declared.inj same
    exact ⟨⟨decl, known, fixed, rfl⟩, emittable.count_helpers values known fixed⟩
  · intro code inside name calls
    obtain ⟨plan, -, rfl⟩ := List.mem_map.mp inside
    obtain own | ⟨-, -, typeName, -, same⟩ | ⟨typeName, -, same⟩ := (mem_called plan).mp calls
    · exact .inl (mem_sharedHelpers_of_mem_names own)
    · exact .inr ⟨typeName, .inl same⟩
    · exact .inr ⟨typeName, .inr same⟩
  · intro code inside argument held
    obtain ⟨plan, -, rfl⟩ := List.mem_map.mp inside
    obtain ⟨param, -, made⟩ := List.mem_flatMap.mp held
    exact (called_argument made).1

/-- Read from the text of an emitted module, each of the shared helpers is declared once if the setup
or the returned value of some wrapper calls it and not at all if none does, every function that packs
or unpacks and that a wrapper calls belongs to a packed type of the module and is declared once with
its counterpart, and no packed value is turned into structured text or read from it.  The text that
was precomputed for types plays no part in this, and neither does documentation: what is declared is
read from the text without them, and with the documentation if none of it ends its comment. -/
theorem helpers_declared_exactly_if_used (built : draft.build = .ok module)
    (emitted : emit module config = .ok glue) :
    glue.wrappers.map (wrapperText glue.exported) <:+ glue.parts ∧
      glue.Shows (String.join (glue.wrappers.map (wrapperText glue.exported))) ∧
      (config.IsTidy → declared? glue.withoutHostText.withoutDocs.text = some glue.declared ∧
        ((∀ text ∈ moduleDocTexts module, StaysInComment text) →
          declared? glue.withoutHostText.text = some glue.declared)) ∧
      ∃ codes : List WrapperCode,
        (glue.wrappers.map fun wrapper =>
          readWrapper? (wrapperText glue.exported wrapper).toList) = codes.map some ∧
        HelpersMatch module glue.declared codes ∧
        List.Forall₂ (KeepsPacked module) module.signatures codes := by
  have emittable := emittable_of_emit built emitted
  obtain ⟨plans, planned, readable, -, wrappers, helpers⟩ := exists_plans_of_emit built emitted
  have printed : glue.wrappers.map (wrapperText glue.exported) <:+ glue.parts :=
    List.suffix_append _ _
  refine ⟨printed, Module.shows_join printed.isInfix, fun tidy => ?_,
    plans.map fun plan => plan.wrapper.code, ?_,
    helpersMatch_of_plans emittable (values_of_emit built emitted) planned helpers, ?_⟩
  · have legible := isLegible_withoutHostText built emitted tidy
    refine ⟨?_, fun docs => ?_⟩
    · rw [declared?_text_withoutDocs legible, declared_withoutHostText]
    · have stay := staysInComment_of_emit emitted docs
      rw [declared?_text legible fun text inside =>
        stay text (docTexts_withoutHostText_subset glue inside), declared_withoutHostText]
  · rw [wrappers, map_readWrapper? readable]
  · exact List.forall₂_map_right_iff.mpr
      (planned.imp fun signature plan asked => asked.keepsPacked emittable)

/-- A packed type with precomputed text, a function of a text and one from and to the packed type. -/
def markerDraft : ModuleDraft :=
  ModuleDraft.empty "markers"
    |>.addType ⟨"Point", .struct ⟨.ofList [("x", .primitive .f32)], .fixed⟩, none,
        some "export interface Point \x7b readonly x: number \x7d\n\nfunction decode() \x7b\x7d"⟩
    |>.addSignature ⟨"label", [.primitive .str], .primitive .void, false, none⟩
    |>.addSignature ⟨"shift", [.declared "Point"], .declared "Point", true, none⟩

/-- The module of that draft. -/
def markerModule : BindingModule :=
  ⟨"markers", markerDraft.options, ⟨markerDraft.types.toArray⟩, markerDraft.signatures⟩

/-- The helper that no wrapper calls is declared by the precomputed text alone. -/
theorem helpers_declared_exactly_if_used_markerModule :
    markerDraft.build = .ok markerModule ∧
      ∃ glue label shift, emit markerModule Config.default = .ok glue ∧
        (glue.wrappers.map fun wrapper =>
          readWrapper? (wrapperText glue.exported wrapper).toList) = [some label, some shift] ∧
        HelpersMatch markerModule glue.declared [label, shift] ∧
        declared? glue.withoutHostText.withoutDocs.text = some glue.declared ∧
        declared? glue.withoutHostText.text = some glue.declared ∧
        valueNames glue.declared =
          ["CachePolicy", "prepare", "encoder", "encode", "readPointer", "url", "uri", "opts",
            "symbols", "_lib", "__pack_Point", "__unpack_Point", "label", "shift"] := by
  have built : markerDraft.build = .ok markerModule := by decide
  obtain ⟨glue, emitted⟩ := (exists_emit_eq_ok_iff built Config.default).mpr
    (BindingModule.faults_eq_nil_iff.mp (by decide))
  obtain ⟨-, -, read, codes, wrappers, fit, keep⟩ := helpers_declared_exactly_if_used built emitted
  obtain ⟨undocumented, documented⟩ := read (isTidy_default true false)
  have docs : ∀ text ∈ moduleDocTexts markerModule, StaysInComment text := by
    unfold StaysInComment
    decide
  obtain ⟨label, others, -, later, rfl⟩ := List.forall₂_cons_left_iff.mp keep
  obtain ⟨shift, others, -, last, rfl⟩ := List.forall₂_cons_left_iff.mp later
  obtain rfl := List.forall₂_nil_left_iff.mp last
  have own : (emit markerModule Config.default).map Module.ownBindings =
      .ok ["CachePolicy", "prepare", "encoder", "encode", "readPointer", "url", "uri", "opts",
        "symbols", "_lib"] := by decide
  rw [emitted] at own
  refine ⟨built, glue, label, shift, emitted, wrappers, fit, undocumented, documented docs, ?_⟩
  rw [values_of_emit built emitted, Except.ok.inj own]
  decide

end Glue
end ForeignBindings
