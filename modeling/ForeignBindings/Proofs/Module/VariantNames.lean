import ForeignBindings.Proofs.Module.Refusal
import ForeignBindings.Proofs.PascalCase

/-!
# Interfaces of variants

The interface of a variant is named by its union and the variant in Pascal case.  That this is no
word of the language follows from how it is made: unless it is the name of the union itself, which is
declared already, a character of it is no lower-case letter, and the words have no other characters.
So a module has only interfaces with usable names, and no draft is refused because one is reserved.
-/

namespace ForeignBindings
namespace Name

/-- Whether a name can be that of an interface beside its union. -/
structure IsUsableBeside (union name : String) : Prop where
  /-- It is an identifier. -/
  identifier : isIdentifier name = true
  /-- It is not the name of the union. -/
  apart : name ≠ union
  /-- It is no reserved word. -/
  not_reserved : name ∉ reservedWords
  /-- It is no predefined type name. -/
  not_builtin : name ∉ builtinTypeNames

/-- The words that the language keeps for itself have lower-case letters only. -/
theorem isLower_of_mem_words {word : String} (kept : word ∈ reservedWords ++ builtinTypeNames)
    {letter : Char} (inside : letter ∈ word.toList) : letter.isLower = true := by
  have lower : ∀ word ∈ reservedWords ++ builtinTypeNames, word.toList.all Char.isLower = true := by
    decide
  exact List.all_eq_true.mp (lower word kept) letter inside

/-- A name in Pascal case is empty or has a character that is no lower-case letter. -/
theorem exists_not_isLower_of_ne {name : String} (inhabited : pascalCase name ≠ "") :
    ∃ letter ∈ (pascalCase name).toList, letter.isLower = false := by
  have capital := (isPascalNormal_pascalCase name).capital
  cases spelled : (pascalCase name).toList with
  | nil => exact absurd (String.toList_eq_nil_iff.mp spelled) inhabited
  | cons first rest =>
      rw [spelled] at capital
      exact ⟨first, List.mem_cons_self, capital first rfl⟩

/-- Whatever a union and its variant are called, the interface of the variant is called like the
union or by no word of the language. -/
theorem variantTypeName_not_mem_words {union variant : String}
    (apart : variantTypeName union variant ≠ union) :
    variantTypeName union variant ∉ reservedWords ++ builtinTypeNames := by
  intro kept
  have inhabited : pascalCase variant ≠ "" := fun empty =>
    apart (by rw [variantTypeName, empty, String.append_empty])
  obtain ⟨letter, inside, other⟩ := exists_not_isLower_of_ne inhabited
  have held : letter ∈ (variantTypeName union variant).toList := by
    rw [variantTypeName, String.toList_append]
    exact List.mem_append_right _ inside
  exact Bool.false_ne_true (other.symm.trans (isLower_of_mem_words kept held))

end Name

namespace ModuleDraft

/-- The interfaces of all variants of a module have usable names, although a build never asks whether
one of them is a word of the language: a draft is refused for a reserved name only if it is that of a
type or a function. -/
theorem variant_names_are_usable (draft : ModuleDraft) :
    (∀ module, draft.build = .ok module →
      ∀ decl ∈ module.types.toList, ∀ union, decl.kind = .union union →
        ∀ variant ∈ union.variants,
          Name.IsUsableBeside decl.name (Name.variantTypeName decl.name variant.name)) ∧
      ∀ role name, draft.build = .error (.reservedName role name) →
        role = .type ∧ name ∈ draft.types.map TypeDecl.name ∨
          role = .function ∧ name ∈ draft.signatures.map Signature.name := by
  refine ⟨fun module built decl inside union kind variant chosen => ?_,
    fun role name => mem_names_of_reservedName⟩
  obtain ⟨wellFormed, normalizes⟩ := build_eq_ok_iff.mp built
  have declared : decl ∈ draft.types := normalizes.types_perm.mem_iff.mp inside
  have emitted : Name.variantTypeName decl.name variant.name ∈
      draft.types.flatMap TypeDecl.interfaceNames := by
    refine List.mem_flatMap.mpr ⟨decl, declared, List.mem_map.mpr ⟨variant, ?_, rfl⟩⟩
    rw [TypeDecl.variants, kind]
    exact chosen
  obtain ⟨identifier, undeclared⟩ := wellFormed.interfaces _ emitted
  have apart : Name.variantTypeName decl.name variant.name ≠ decl.name := by
    intro same
    rw [same] at undeclared
    exact undeclared (List.mem_map_of_mem declared)
  have free := Name.variantTypeName_not_mem_words apart
  exact ⟨identifier, apart, fun reserved => free (List.mem_append_left _ reserved),
    fun builtin => free (List.mem_append_right _ builtin)⟩

/-- A union of variants without payloads. -/
def enumeration (name : String) (variants : List String) : TypeDecl :=
  ⟨name, .union ⟨"kind", "value", variants.map fun variant => ⟨variant, none, none⟩⟩, none, none⟩

/-- A draft of one such union. -/
def enumerationDraft (name : String) (variants : List String) : ModuleDraft :=
  (ModuleDraft.empty "d").addType (enumeration name variants)

/-- A union `i` has the interfaces `iF` and `iNAs`, although `if` and `in` are reserved words, and a
union that is itself called `if` is refused. -/
theorem variant_names_are_usable_i :
    (enumerationDraft "i" ["f", "n_as"]).build =
        .ok ⟨"d", (ModuleDraft.empty "d").options, ⟨#[enumeration "i" ["f", "n_as"]]⟩, []⟩ ∧
      Name.IsUsableBeside "i" "iF" ∧ Name.IsUsableBeside "i" "iNAs" ∧
      (enumerationDraft "if" ["f"]).build = .error (.reservedName .type "if") ∧
      "if" ∈ (enumerationDraft "if" ["f"]).types.map TypeDecl.name := by
  have built : (enumerationDraft "i" ["f", "n_as"]).build =
      .ok ⟨"d", (ModuleDraft.empty "d").options, ⟨#[enumeration "i" ["f", "n_as"]]⟩, []⟩ := by
    decide
  have refused : (enumerationDraft "if" ["f"]).build = .error (.reservedName .type "if") := by
    decide
  have usable := (variant_names_are_usable (enumerationDraft "i" ["f", "n_as"])).1 _ built
    (enumeration "i" ["f", "n_as"]) List.mem_cons_self _ rfl
  refine ⟨built, usable ⟨"f", none, none⟩ (by decide), usable ⟨"n_as", none, none⟩ (by decide),
    refused, ?_⟩
  obtain ⟨-, held⟩ | ⟨impossible, -⟩ :=
    (variant_names_are_usable (enumerationDraft "if" ["f"])).2 _ _ refused
  · exact held
  · cases impossible

/-- A variant of separators only would have the interface of its union. -/
example :
    ((ModuleDraft.empty "d").addType
        ⟨"i", .union ⟨"kind", "value", [⟨"_", none, none⟩]⟩, none, none⟩).build =
      .error (.variantNameClash "i" "_" "i") := by decide

end ModuleDraft
end ForeignBindings
