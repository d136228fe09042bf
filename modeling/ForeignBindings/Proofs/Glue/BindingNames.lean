import ForeignBindings.Proofs.Glue.CallPlans
import ForeignBindings.Proofs.Text.IdentifierName

/-!
# Names of emitted functions

The rules for the names that strict-mode module code can bind, written down from the grammar of the
emitted language: an identifier that is no reserved word, none of the words that strict mode reserves
besides, and none of the two names that it keeps from being bound.  A function of an emitted module
has a name that is bindable exactly if it is none of those two, which nothing checks.
-/

namespace ForeignBindings
namespace Glue

open Text (WideLetters IsIdentifierName isIdentifierName_of_isIdentifier)

/-- The reserved words of modules. -/
def moduleWords : List String :=
  ["await", "break", "case", "catch", "class", "const", "continue", "debugger", "default",
    "delete", "do", "else", "enum", "export", "extends", "false", "finally", "for", "function",
    "if", "import", "in", "instanceof", "new", "null", "return", "super", "switch", "this",
    "throw", "true", "try", "typeof", "var", "void", "while", "with", "yield"]

/-- The words that are reserved in strict mode besides. -/
def strictWords : List String :=
  ["implements", "interface", "let", "package", "private", "protected", "public", "static"]

/-- The names that can be used but not bound in strict mode. -/
def unboundNames : List String :=
  ["arguments", "eval"]

/-- Whether a name can be bound in the strict-mode code of a module. -/
structure IsBindable (wide : WideLetters) (name : String) : Prop where
  /-- It names an identifier. -/
  identifier : IsIdentifierName wide name
  /-- It is no reserved word. -/
  not_reserved : name ∉ moduleWords
  /-- Nor is it reserved in strict mode. -/
  not_strict : name ∉ strictWords
  /-- Strict mode lets it be bound. -/
  bound : name ∉ unboundNames

/-- A declarable name is bindable exactly if strict mode lets it be bound. -/
theorem isBindable_iff_of_declarable {name : String} (declarable : Name.Declarable name)
    (wide : WideLetters) : IsBindable wide name ↔ name ∉ unboundNames := by
  obtain ⟨identifier, free⟩ := declarable
  have known : ∀ word ∈ moduleWords ++ strictWords, word ∈ Name.reservedWords := by decide
  refine ⟨IsBindable.bound, fun bound => ⟨isIdentifierName_of_isIdentifier identifier wide, ?_, ?_,
    bound⟩⟩
  · exact fun inside => free (known name (List.mem_append_left _ inside))
  · exact fun inside => free (known name (List.mem_append_right _ inside))

variable {draft : ModuleDraft} {module : BindingModule} {config : Config} {glue : Module}

/-- The name that stands behind `function` in the text of a wrapper. -/
def functionName? (text : String) : Option String :=
  (readWrapper? text.toList).map WrapperCode.name

/-- The wrappers of an emitted module are functions of the names of the module's functions. -/
theorem map_functionName? (built : draft.build = .ok module)
    (emitted : emit module config = .ok glue) :
    glue.wrappers.map (fun wrapper => functionName? (wrapperText glue.exported wrapper)) =
      module.signatures.map fun signature => some signature.name := by
  obtain ⟨plans, planned, readable, -, wrappers, -⟩ := exists_plans_of_emit built emitted
  have read := congrArg (List.map (Option.map WrapperCode.name))
    (map_readWrapper? readable glue.exported)
  rw [← wrappers, List.map_map, List.map_map, List.map_map] at read
  refine read.trans ?_
  exact (map_eq_of_forall₂ (fun signature plan asked =>
    congrArg (fun source : Signature => some source.name) asked.planned) planned)

/-- Read from the text of an emitted module, the name behind `function` of each wrapper is that of
the module's function, and it is bindable exactly if it is neither `arguments` nor `eval`. -/
theorem function_names_bindable_iff (built : draft.build = .ok module)
    (emitted : emit module config = .ok glue) (wide : WideLetters) :
    glue.wrappers.map (wrapperText glue.exported) <:+ glue.parts ∧
      glue.Shows (String.join (glue.wrappers.map (wrapperText glue.exported))) ∧
      (glue.wrappers.map fun wrapper => functionName? (wrapperText glue.exported wrapper)) =
        (module.signatures.map fun signature => some signature.name) ∧
      ∀ signature ∈ module.signatures,
        (IsBindable wide signature.name ↔
          signature.name ≠ "arguments" ∧ signature.name ≠ "eval") := by
  obtain ⟨wellFormed, normalizes⟩ := ModuleDraft.build_eq_ok_iff.mp built
  have printed : glue.wrappers.map (wrapperText glue.exported) <:+ glue.parts :=
    List.suffix_append _ _
  refine ⟨printed, Module.shows_join printed.isInfix, map_functionName? built emitted,
    fun signature inside => ?_⟩
  have declarable :=
    wellFormed.functions signature (normalizes.signatures_perm.mem_iff.mp inside)
  rw [isBindable_iff_of_declarable declarable, unboundNames]
  simp

/-- A function with a name that only looks like one that cannot be bound. -/
def evaluateModule : BindingModule :=
  ⟨"d", (ModuleDraft.empty "d").options, ⟨#[]⟩, [⟨"evaluate", [], .primitive .void, false, none⟩]⟩

/-- A function can be named `evaluate`. -/
theorem function_names_bindable_iff_evaluate :
    ((ModuleDraft.empty "d").addSignature
        ⟨"evaluate", [], .primitive .void, false, none⟩).build = .ok evaluateModule ∧
      ∃ glue, emit evaluateModule Config.default = .ok glue ∧
        (glue.wrappers.map fun wrapper => functionName? (wrapperText glue.exported wrapper)) =
          [some "evaluate"] ∧
        ∀ wide, IsBindable wide "evaluate" := by
  have built : ((ModuleDraft.empty "d").addSignature
      ⟨"evaluate", [], .primitive .void, false, none⟩).build = .ok evaluateModule := by decide
  obtain ⟨glue, emitted⟩ := (exists_emit_eq_ok_iff built Config.default).mpr
    (BindingModule.faults_eq_nil_iff.mp (by decide))
  have bindable (wide : WideLetters) := function_names_bindable_iff built emitted wide
  refine ⟨built, glue, emitted, (bindable ⟨fun _ => false, fun _ => false⟩).2.2.1, fun wide => ?_⟩
  exact ((bindable wide).2.2.2 _ List.mem_cons_self).mpr (by decide)

/-- A function named `eval`. -/
def evalModule : BindingModule :=
  ⟨"d", (ModuleDraft.empty "d").options, ⟨#[]⟩, [⟨"eval", [], .primitive .void, false, none⟩]⟩

/-- A module with that function is built and emitted, and its wrapper has a name that cannot be
bound. -/
theorem eval_is_emitted_unbindable :
    ((ModuleDraft.empty "d").addSignature ⟨"eval", [], .primitive .void, false, none⟩).build =
        .ok evalModule ∧
      ∃ glue, emit evalModule Config.default = .ok glue ∧
        (glue.wrappers.map fun wrapper => functionName? (wrapperText glue.exported wrapper)) =
          [some "eval"] ∧
        ∀ wide, ¬ IsBindable wide "eval" := by
  have built : ((ModuleDraft.empty "d").addSignature
      ⟨"eval", [], .primitive .void, false, none⟩).build = .ok evalModule := by decide
  obtain ⟨glue, emitted⟩ := (exists_emit_eq_ok_iff built Config.default).mpr
    (BindingModule.faults_eq_nil_iff.mp (by decide))
  refine ⟨built, glue, emitted, map_functionName? built emitted, fun wide bindable => ?_⟩
  exact bindable.bound (by decide)

end Glue
end ForeignBindings
