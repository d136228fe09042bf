import ForeignBindings.Glue.Printer
import ForeignBindings.Proofs.Text.Lines

/-!
# The parts of a module

The text of a module is made of its parts, and only the blanks at its end are dropped.  So every part,
and all parts that follow one another, stand in the text, up to these blanks.  A declaration and a
wrapper begin with their documentation, and what they are without it follows.
-/

namespace ForeignBindings
namespace Glue

/-- Whether a text stands in the text of a module, up to the blanks at its end. -/
def Module.Shows (glue : Module) (text : String) : Prop :=
  Text.trimEnd text.toList <:+: glue.text.toList

variable {glue : Module} {text : String}

/-- Nothing but blanks at the end is lost of the parts that a module is printed from. -/
theorem Module.shows_of_infix (inside : text.toList <:+: (String.join glue.parts).toList) :
    glue.Shows text := by
  rw [Module.Shows, Module.text, endWithLineFeed, String.toList_ofList]
  exact (Text.trimEnd_infix_trimEnd inside).trans (List.prefix_append _ _).isInfix

/-- Parts that follow one another do so in the text of the module. -/
theorem Module.shows_join {texts : List String} (inside : texts <:+: glue.parts) :
    glue.Shows (String.join texts) := by
  refine Module.shows_of_infix ?_
  obtain ⟨before, after, split⟩ := inside
  rw [String.toList_join, String.toList_join, ← split, List.flatMap_append, List.flatMap_append]
  exact List.infix_append _ _ _

theorem infix_of_mem_parts (inside : text ∈ glue.parts) :
    text.toList <:+: (String.join glue.parts).toList := by
  obtain ⟨before, after, split⟩ := List.append_of_mem inside
  rw [String.toList_join, split, List.flatMap_append, List.flatMap_cons, ← List.append_assoc]
  exact List.infix_append _ _ _

theorem Module.shows_of_mem (inside : text ∈ glue.parts) : glue.Shows text :=
  Module.shows_of_infix (infix_of_mem_parts inside)

/-- The documentation of a declaration. -/
def Declaration.docs : Declaration → Option String
  | .verbatim docs _ => docs
  | .interface declared => declared.docs
  | .oneOf _ docs _ => docs
  | .codec _ => none

/-- A declaration without its documentation. -/
def Declaration.withoutDocs : Declaration → Declaration
  | .verbatim _ text => .verbatim none text
  | .interface declared => .interface { declared with docs := none }
  | .oneOf name _ alternatives => .oneOf name none alternatives
  | .codec helpers => .codec helpers

/-- A wrapper without its documentation. -/
def Wrapper.withoutDocs (wrapper : Wrapper) : Wrapper :=
  { wrapper with docs := none }

theorem docComment_none : docComment none = "" := rfl

/-- The comment of a declaration comes first, and the declaration without it follows. -/
theorem declarationText_eq (exported : Bool) (declaration : Declaration) :
    declarationText exported declaration =
      docComment declaration.docs ++ declarationText exported declaration.withoutDocs := by
  cases declaration with
  | verbatim docs text =>
      simp only [declarationText, Declaration.docs, Declaration.withoutDocs, docComment_none,
        String.empty_append, String.append_assoc]
  | interface declared =>
      simp only [declarationText, interfaceText, Declaration.docs, Declaration.withoutDocs,
        docComment_none, String.empty_append]
      split
      all_goals simp only [String.append_assoc]
  | oneOf name docs alternatives =>
      simp only [declarationText, Declaration.docs, Declaration.withoutDocs, docComment_none,
        String.empty_append, String.append_assoc]
  | codec helpers =>
      simp only [declarationText, Declaration.docs, Declaration.withoutDocs, docComment_none,
        String.empty_append]

/-- The comment of a wrapper comes first, and the wrapper without it follows. -/
theorem wrapperText_eq (exported : Bool) (wrapper : Wrapper) :
    wrapperText exported wrapper =
      docComment wrapper.docs ++ wrapperText exported wrapper.withoutDocs := by
  unfold wrapperText Wrapper.withoutDocs
  rw [docComment_none, String.empty_append]
  simp only [-String.reduceAppend, String.append_assoc]

/-- What a declaration is without its documentation stands in the text of the module. -/
theorem Module.shows_declaration {declaration : Declaration}
    (inside : declaration ∈ glue.declarations) :
    glue.Shows (declarationText glue.exported declaration.withoutDocs) := by
  have part : declarationText glue.exported declaration ∈ glue.parts := by
    rw [Module.parts]
    exact List.mem_append_left _ (List.mem_append_right _ (List.mem_map_of_mem inside))
  have whole := infix_of_mem_parts part
  rw [declarationText_eq, String.toList_append] at whole
  exact Module.shows_of_infix ((List.suffix_append _ _).isInfix.trans whole)

end Glue
end ForeignBindings
