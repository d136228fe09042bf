import ForeignBindings.Proofs.Layout.Natural
import ForeignBindings.Proofs.Module.WellFormed

/-!
# Refused drafts

What a draft is refused for is about a part of it: a declaration, a function or the interface of a
variant, or a name that two of them share.  Each check has causes of its own, and the cause names the
part that was checked.  So a draft is refused for a repeated type or function only if it declares one
twice, and for a reserved name only if that is the name of a type or a function.
-/

namespace ForeignBindings

/-- Whether a cause is that a type or a function is declared twice. -/
def ModuleError.isRepetition : ModuleError → Bool
  | .duplicateType _ | .duplicateFunction _ => true
  | _ => false

namespace ModuleDraft

open Checks

/-- The faults of the name of a type or a function. -/
inductive NameFault (role : NameRole) (name : String) : ModuleError → Prop where
  | invalidIdentifier : NameFault role name (.invalidIdentifier role name)
  | reservedName : NameFault role name (.reservedName role name)

/-- The faults of a declaration. -/
inductive DeclFault (decl : TypeDecl) : ModuleError → Prop where
  | shadowsPrimitive : DeclFault decl (.shadowsPrimitive decl.name)
  | name {cause : ModuleError} (fault : NameFault .type decl.name cause) : DeclFault decl cause
  | fixedLayoutInStructured {field fixed : String}
      (held : (field, TypeRef.declared fixed) ∈ decl.references) :
      DeclFault decl (.fixedLayoutInStructured decl.name field fixed)
  | fixedLayoutField {field : String × TypeRef} (held : field ∈ decl.references) :
      DeclFault decl (.fixedLayoutField decl.name field.1)
  | emptyUnion : DeclFault decl (.emptyUnion decl.name)
  | tagContentClash : DeclFault decl (.tagContentClash decl.name)
  | duplicateVariant {variant : String} : DeclFault decl (.duplicateVariant decl.name variant)

/-- The faults of the interface of a variant. -/
inductive InterfaceFault (union variant : String) : ModuleError → Prop where
  | invalidIdentifier :
      InterfaceFault union variant
        (.invalidIdentifier .variantType (Name.variantTypeName union variant))
  | variantNameClash :
      InterfaceFault union variant
        (.variantNameClash union variant (Name.variantTypeName union variant))

/-- The faults of a draft. -/
inductive Fault (draft : ModuleDraft) : ModuleError → Prop where
  | duplicateType {name : String} (often : 1 < (draft.types.map TypeDecl.name).count name) :
      Fault draft (.duplicateType name)
  | duplicateFunction {name : String}
      (often : 1 < (draft.signatures.map Signature.name).count name) :
      Fault draft (.duplicateFunction name)
  | decl {decl : TypeDecl} {cause : ModuleError} (inside : decl ∈ draft.types)
      (fault : DeclFault decl cause) : Fault draft cause
  | function {signature : Signature} {cause : ModuleError} (inside : signature ∈ draft.signatures)
      (fault : NameFault .function signature.name cause) : Fault draft cause
  | interface {decl : TypeDecl} {variant : Variant} {cause : ModuleError}
      (inside : decl ∈ draft.types) (chosen : variant ∈ decl.variants)
      (fault : InterfaceFault decl.name variant.name cause) : Fault draft cause

theorem checkName_eq_error {role : NameRole} {name : String} {cause : ModuleError}
    (refused : checkName role name = .error cause) : NameFault role name cause := by
  rw [checkName] at refused
  split at refused
  · cases refused
    exact .invalidIdentifier
  · split at refused
    · cases refused
      exact .reservedName
    · cases refused

theorem checkTypeName_eq_error {decl : TypeDecl} {cause : ModuleError}
    (refused : checkTypeName decl.name = .error cause) : DeclFault decl cause := by
  rw [checkTypeName] at refused
  cases primitive : (Primitive.ofToken? decl.name).isSome with
  | true =>
      rw [primitive] at refused
      cases refused
      exact .shadowsPrimitive
  | false =>
      rw [primitive] at refused
      obtain refused | ⟨-, -, refused⟩ := bind_eq_error_iff.mp refused
      · exact .name (checkName_eq_error refused)
      · split at refused
        · cases refused
          exact .name .reservedName
        · cases refused

theorem checkReference_eq_error {types : DeclSet} {decl : TypeDecl} {reference : String × TypeRef}
    {cause : ModuleError} (held : reference ∈ decl.references)
    (refused : checkReference types decl.name reference = .error cause) :
    DeclFault decl cause := by
  obtain ⟨field, type⟩ := reference
  cases type with
  | primitive primitive => cases refused
  | declared fixed =>
      rw [checkReference] at refused
      split at refused
      · cases refused
        exact .fixedLayoutInStructured held
      · cases refused

theorem checkStruct_eq_error {decl : TypeDecl} {struct : StructDecl} {cause : ModuleError}
    (kind : decl.kind = .struct struct)
    (refused : checkStruct decl.name struct = .error cause) : DeclFault decl cause := by
  obtain ⟨fields, encoding⟩ := struct
  cases encoding with
  | structured => cases refused
  | fixed =>
      obtain refused | ⟨-, -, ⟨⟩⟩ := bind_eq_error_iff.mp refused
      obtain refused | ⟨-, -, ⟨⟩⟩ := bind_eq_error_iff.mp refused
      obtain ⟨field, found, rfl⟩ := Layout.place_eq_error_iff.mp refused
      have held : field ∈ decl.references :=
        TypeDecl.references_of_struct kind ▸ List.mem_of_find?_eq_some found
      exact .fixedLayoutField held

theorem checkUnion_eq_error {decl : TypeDecl} {union : UnionDecl} {cause : ModuleError}
    (refused : checkUnion decl.name union = .error cause) : DeclFault decl cause := by
  rw [checkUnion] at refused
  split at refused
  · cases refused
    exact .emptyUnion
  · split at refused
    · cases refused
      exact .tagContentClash
    · split at refused
      · cases refused
        exact .duplicateVariant
      · cases refused

theorem checkDecl_eq_error {types : DeclSet} {decl : TypeDecl} {cause : ModuleError}
    (refused : checkDecl types decl = .error cause) : DeclFault decl cause := by
  obtain refused | ⟨-, -, refused⟩ := bind_eq_error_iff.mp refused
  · exact checkTypeName_eq_error refused
  obtain refused | ⟨-, -, refused⟩ := bind_eq_error_iff.mp refused
  · obtain ⟨reference, held, refused⟩ := exists_of_forM_eq_error refused
    exact checkReference_eq_error held refused
  cases kind : decl.kind with
  | struct struct =>
      rw [kind] at refused
      exact checkStruct_eq_error kind refused
  | union union =>
      rw [kind] at refused
      exact checkUnion_eq_error refused

theorem checkVariantNames_eq_error {types : DeclSet} {emitted : List String}
    {variants : List (String × String)} {cause : ModuleError}
    (refused : checkVariantNames types emitted variants = .error cause) :
    ∃ pair ∈ variants, InterfaceFault pair.1 pair.2 cause := by
  induction variants generalizing emitted with
  | nil => cases refused
  | cons pair rest induction =>
      rw [checkVariantNames] at refused
      split at refused
      · cases refused
        exact ⟨pair, List.mem_cons_self, .invalidIdentifier⟩
      · split at refused
        · cases refused
          exact ⟨pair, List.mem_cons_self, .variantNameClash⟩
        · obtain ⟨other, inside, fault⟩ := induction refused
          exact ⟨other, List.mem_cons_of_mem pair inside, fault⟩

theorem sortSignatures_eq_error {signatures : List Signature} {cause : ModuleError}
    (refused : sortSignatures signatures = .error cause) :
    ∃ name, cause = .duplicateFunction name ∧
      1 < (signatures.map Signature.name).count name := by
  rw [sortSignatures] at refused
  cases sorting : NameOrder.sortDistinct Signature.name signatures with
  | ok sorted =>
      rw [sorting] at refused
      cases refused
  | error repeated =>
      rw [sorting] at refused
      cases refused
      exact ⟨repeated, rfl, (NameOrder.sortDistinct_eq_error_iff.mp sorting).1⟩

/-- A draft is refused for one of its faults. -/
theorem fault_of_build_eq_error {draft : ModuleDraft} {cause : ModuleError}
    (refused : draft.build = .error cause) : draft.Fault cause := by
  obtain refused | ⟨types, typesOf, refused⟩ := bind_eq_error_iff.mp refused
  · obtain ⟨name, rfl, often, -⟩ := DeclSet.ofList_eq_error_iff.mp refused
    exact .duplicateType often
  have declared := (DeclSet.ofList_eq_ok_iff.mp typesOf).1
  obtain refused | ⟨signatures, signaturesOf, refused⟩ := bind_eq_error_iff.mp refused
  · obtain ⟨name, rfl, often⟩ := sortSignatures_eq_error refused
    exact .duplicateFunction often
  have provided := (sortSignatures_eq_ok_iff.mp signaturesOf).1
  obtain refused | ⟨-, -, refused⟩ := bind_eq_error_iff.mp refused
  · obtain ⟨decl, inside, refused⟩ := exists_of_forM_eq_error refused
    exact .decl (declared.mem_iff.mp inside) (checkDecl_eq_error refused)
  obtain refused | ⟨-, -, refused⟩ := bind_eq_error_iff.mp refused
  · obtain ⟨signature, inside, refused⟩ := exists_of_forM_eq_error refused
    exact .function (provided.mem_iff.mp inside) (checkName_eq_error refused)
  obtain refused | ⟨-, -, ⟨⟩⟩ := bind_eq_error_iff.mp refused
  obtain ⟨pair, named, fault⟩ := checkVariantNames_eq_error refused
  obtain ⟨decl, inside, named⟩ := List.mem_flatMap.mp named
  obtain ⟨variant, chosen, rfl⟩ := List.mem_map.mp named
  exact .interface (declared.mem_iff.mp inside) chosen fault

/-- A draft without repeated names is not refused for one. -/
theorem build_avoids_repetition {draft : ModuleDraft}
    (types_distinct : (draft.types.map TypeDecl.name).Nodup)
    (functions_distinct : (draft.signatures.map Signature.name).Nodup) :
    Avoids ModuleError.isRepetition draft.build := by
  intro cause refused
  cases fault_of_build_eq_error refused with
  | duplicateType often =>
      exact absurd often (Nat.not_lt.mpr (List.nodup_iff_count_le_one.mp types_distinct _))
  | duplicateFunction often =>
      exact absurd often (Nat.not_lt.mpr (List.nodup_iff_count_le_one.mp functions_distinct _))
  | decl inside fault => cases fault with
      | name fault => cases fault <;> rfl
      | _ => rfl
  | function inside fault => cases fault <;> rfl
  | interface inside chosen fault => cases fault <;> rfl

/-- A draft is refused for a reserved name only if a type or a function has it. -/
theorem mem_names_of_reservedName {draft : ModuleDraft} {role : NameRole} {name : String}
    (refused : draft.build = .error (.reservedName role name)) :
    role = .type ∧ name ∈ draft.types.map TypeDecl.name ∨
      role = .function ∧ name ∈ draft.signatures.map Signature.name := by
  cases fault_of_build_eq_error refused with
  | decl inside fault =>
      cases fault with
      | name fault =>
          cases fault
          exact .inl ⟨rfl, List.mem_map_of_mem inside⟩
  | function inside fault =>
      cases fault
      exact .inr ⟨rfl, List.mem_map_of_mem inside⟩
  | interface inside chosen fault => cases fault

end ModuleDraft
end ForeignBindings
