import ForeignBindings.Module
import ForeignBindings.Proofs.DeclSet
import ForeignBindings.Proofs.Layout

/-!
# Which drafts make modules

A draft makes a module exactly if it is well formed.  What that means does not mention the order of
the checks or of the declarations: names are distinct and can be declared, unions can be told apart
by their tags, interfaces of variants have names of their own, and packed structs hold scalars only
and are no part of other data.  The module has the declarations and functions of the draft in name
order and everything else as it was.
-/

namespace ForeignBindings

/-- Whether a name can be declared: an identifier that the language does not keep for itself. -/
def Name.Declarable (name : String) : Prop :=
  isIdentifier name = true ∧ name ∉ reservedWords

/-- Whether every value of a union has exactly one variant and a place for its payload. -/
structure UnionDecl.WellFormed (union : UnionDecl) : Prop where
  /-- There is a variant. -/
  inhabited : union.variants ≠ []
  /-- No two variants share a name. -/
  distinct : (union.variants.map Variant.name).Nodup
  /-- The tag and the payload have members of their own. -/
  apart : union.tag ≠ union.content

namespace TypeDecl

/-- The names of the interfaces that the variants of a declaration are emitted as. -/
def interfaceNames (decl : TypeDecl) : List String :=
  decl.variants.map fun variant => Name.variantTypeName decl.name variant.name

/-- Whether a declaration can stand among the given ones. -/
structure WellFormedAmong (decls : List TypeDecl) (decl : TypeDecl) : Prop where
  /-- The name can be declared. -/
  declarable : Name.Declarable decl.name
  /-- The name hides no primitive type. -/
  not_primitive : ∀ primitive : Primitive, primitive.token ≠ decl.name
  /-- The name hides no predefined type. -/
  not_builtin : decl.name ∉ Name.builtinTypeNames
  /-- A union is well formed. -/
  union : ∀ union, decl.kind = .union union → union.WellFormed
  /-- A packed struct holds scalars of fixed width only. -/
  packed_scalars : ∀ fields, decl.kind = .struct ⟨fields, .fixed⟩ →
    ∀ field ∈ fields.toList, field.2.IsScalar
  /-- No field and no payload holds a packed struct. -/
  packed_apart : ∀ reference ∈ decl.references, ∀ packed ∈ decls,
    packed.isFixedLayout = true → reference.2 ≠ .declared packed.name

theorem references_of_struct {decl : TypeDecl} {struct : StructDecl}
    (kind : decl.kind = .struct struct) : decl.references = struct.fields.toList := by
  rw [references, kind]

theorem mem_references_of_payload {decl : TypeDecl} {union : UnionDecl} {variant : Variant}
    {fields : Fields} (kind : decl.kind = .union union) (chosen : variant ∈ union.variants)
    (payload : variant.payload = some fields) {field : String × TypeRef}
    (inside : field ∈ fields.toList) :
    (variant.name ++ "." ++ field.1, field.2) ∈ decl.references := by
  rw [references, kind, List.mem_flatMap]
  refine ⟨variant, chosen, ?_⟩
  rw [variantReferences, payload]
  exact List.mem_map_of_mem inside

end TypeDecl

namespace ModuleDraft

open Checks

/-- Whether a draft makes a module, said of its declarations and functions in any order. -/
structure WellFormed (draft : ModuleDraft) : Prop where
  /-- No type is declared twice. -/
  types_distinct : (draft.types.map TypeDecl.name).Nodup
  /-- No function is declared twice. -/
  functions_distinct : (draft.signatures.map Signature.name).Nodup
  /-- Every declaration can stand among the others. -/
  types : ∀ decl ∈ draft.types, decl.WellFormedAmong draft.types
  /-- Functions can be declared. -/
  functions : ∀ signature ∈ draft.signatures, Name.Declarable signature.name
  /-- Interfaces of variants have identifiers as names, and not those of types. -/
  interfaces : ∀ name ∈ draft.types.flatMap TypeDecl.interfaceNames,
    Name.isIdentifier name = true ∧ name ∉ draft.types.map TypeDecl.name
  /-- No two variants, of whatever unions, share an interface. -/
  interfaces_distinct : (draft.types.flatMap TypeDecl.interfaceNames).Nodup

/-- Whether a module is a draft brought into name order. -/
structure Normalizes (draft : ModuleDraft) (module : BindingModule) : Prop where
  /-- The package name is kept. -/
  name : module.name = draft.name
  /-- The options are kept. -/
  options : module.options = draft.options
  /-- The types are those of the draft. -/
  types_perm : module.types.toList.Perm draft.types
  /-- The types are in strictly increasing name order. -/
  types_ordered : (module.types.toList.map TypeDecl.name).Pairwise (· < ·)
  /-- The functions are those of the draft. -/
  signatures_perm : module.signatures.Perm draft.signatures
  /-- The functions are in strictly increasing name order. -/
  signatures_ordered : (module.signatures.map Signature.name).Pairwise (· < ·)

theorem checkName_eq_ok_iff (role : NameRole) {name : String} :
    checkName role name = .ok () ↔ Name.Declarable name := by
  rw [checkName, Name.Declarable, ← List.contains_iff_mem, ← Name.isReservedWord]
  cases Name.isIdentifier name <;> cases Name.isReservedWord name <;> simp

theorem ofToken?_eq_none_iff {name : String} :
    Primitive.ofToken? name = none ↔ ∀ primitive : Primitive, primitive.token ≠ name := by
  simp [Primitive.ofToken?, Primitive.mem_all]

theorem checkTypeName_eq_ok_iff {name : String} :
    checkTypeName name = .ok () ↔
      (∀ primitive : Primitive, primitive.token ≠ name) ∧ Name.Declarable name ∧
        name ∉ Name.builtinTypeNames := by
  rw [← ofToken?_eq_none_iff, ← checkName_eq_ok_iff .type, ← List.contains_iff_mem,
    ← Name.isBuiltinTypeName, checkTypeName]
  cases Primitive.ofToken? name with
  | some known => simp [bind, Except.bind, throw, throwThe, MonadExceptOf.throw]
  | none =>
      cases checkName .type name with
      | error cause => simp [bind, Except.bind]
      | ok _ =>
          cases Name.isBuiltinTypeName name <;>
            simp [bind, Except.bind, pure, Except.pure, throw, throwThe, MonadExceptOf.throw]

theorem checkReference_eq_ok_iff {types : DeclSet} (ordered : types.Ordered) {typeName : String}
    {reference : String × TypeRef} :
    checkReference types typeName reference = .ok () ↔
      ∀ packed ∈ types.toList, packed.isFixedLayout = true →
        reference.2 ≠ .declared packed.name := by
  obtain ⟨field, type⟩ := reference
  cases type with
  | primitive primitive => simp [checkReference]
  | declared name =>
      rw [checkReference]
      cases found : types.find? name with
      | none =>
          have undeclared := (DeclSet.find?_eq_none_iff ordered).mp found
          simp only [Option.any_none, Bool.false_eq_true, if_false, true_iff]
          rintro packed inside - ⟨⟩
          exact undeclared (List.mem_map_of_mem inside)
      | some decl =>
          obtain ⟨inside, rfl⟩ := (DeclSet.find?_eq_some_iff ordered).mp found
          rw [Option.any_some]
          by_cases fixed : decl.isFixedLayout = true
          · simp only [fixed, if_true, reduceCtorEq, false_iff]
            exact fun apart => apart decl inside fixed rfl
          · simp only [fixed, if_false, true_iff, Bool.false_eq_true]
            rintro packed packed_inside packed_fixed same
            have again := (DeclSet.find?_eq_some_iff ordered).mpr
              ⟨packed_inside, (TypeRef.declared.inj same).symm⟩
            exact fixed (Option.some.inj (found.symm.trans again) ▸ packed_fixed)

theorem checkStruct_eq_ok_iff {typeName : String} {struct : StructDecl} :
    checkStruct typeName struct = .ok () ↔
      ∀ fields, struct = ⟨fields, .fixed⟩ → ∀ field ∈ fields.toList, field.2.IsScalar := by
  obtain ⟨fields, encoding⟩ := struct
  cases encoding with
  | structured => simp [checkStruct]
  | fixed =>
      simp only [checkStruct, bind_eq_ok_iff, StructDecl.mk.injEq, and_true, forall_eq']
      rw [← Layout.exists_ofFields_iff typeName]
      exact ⟨fun ⟨layout, succeeded, _⟩ => ⟨layout, succeeded⟩,
        fun ⟨layout, succeeded⟩ => ⟨layout, succeeded, rfl⟩⟩

theorem checkUnion_eq_ok_iff {typeName : String} {union : UnionDecl} :
    checkUnion typeName union = .ok () ↔ union.WellFormed := by
  rw [checkUnion]
  split
  case isTrue empty =>
    simp only [reduceCtorEq, false_iff]
    exact fun wellFormed => wellFormed.inhabited (List.isEmpty_iff.mp empty)
  case isFalse inhabited =>
    split
    case isTrue clash =>
      simp only [reduceCtorEq, false_iff]
      exact fun wellFormed => wellFormed.apart clash
    case isFalse apart =>
      have distinct : NameOrder.firstRepeated? [] (union.variants.map Variant.name) = none ↔
          (union.variants.map Variant.name).Nodup := by
        rw [NameOrder.firstRepeated?_eq_none_iff]
        exact and_iff_left fun _ _ => List.not_mem_nil
      cases repeated : NameOrder.firstRepeated? [] (union.variants.map Variant.name) with
      | some variant =>
          simp only [reduceCtorEq, false_iff]
          intro wellFormed
          cases repeated.symm.trans (distinct.mpr wellFormed.distinct)
      | none =>
          refine iff_of_true rfl ⟨fun empty => inhabited ?_, distinct.mp repeated, apart⟩
          exact List.isEmpty_iff.mpr empty

theorem checkDecl_eq_ok_iff {types : DeclSet} (ordered : types.Ordered) {decl : TypeDecl} :
    checkDecl types decl = .ok () ↔ decl.WellFormedAmong types.toList := by
  simp only [checkDecl, then_eq_ok_iff, checkTypeName_eq_ok_iff, forM_eq_ok_iff,
    checkReference_eq_ok_iff ordered]
  cases kind : decl.kind with
  | struct struct =>
      simp only [checkStruct_eq_ok_iff]
      constructor
      · rintro ⟨⟨not_primitive, declarable, not_builtin⟩, packed_apart, packed_scalars⟩
        refine ⟨declarable, not_primitive, not_builtin, ?_, ?_, packed_apart⟩
        · rintro union same
          cases kind.symm.trans same
        · rintro fields same
          exact packed_scalars fields (DeclKind.struct.inj (kind.symm.trans same))
      · intro wellFormed
        refine ⟨⟨wellFormed.not_primitive, wellFormed.declarable, wellFormed.not_builtin⟩,
          wellFormed.packed_apart, ?_⟩
        rintro fields rfl
        exact wellFormed.packed_scalars fields kind
  | union union =>
      simp only [checkUnion_eq_ok_iff]
      constructor
      · rintro ⟨⟨not_primitive, declarable, not_builtin⟩, packed_apart, wellFormed⟩
        refine ⟨declarable, not_primitive, not_builtin, ?_, ?_, packed_apart⟩
        · rintro other same
          exact DeclKind.union.inj (kind.symm.trans same) ▸ wellFormed
        · rintro fields same
          cases kind.symm.trans same
      · intro wellFormed
        exact ⟨⟨wellFormed.not_primitive, wellFormed.declarable, wellFormed.not_builtin⟩,
          wellFormed.packed_apart, wellFormed.union union kind⟩

theorem variantNames_eq (types : DeclSet) :
    (variantNames types).map (fun pair => Name.variantTypeName pair.1 pair.2) =
      types.toList.flatMap TypeDecl.interfaceNames := by
  rw [variantNames, List.map_flatMap]
  refine congrArg (types.toList.flatMap ·) (funext fun decl => ?_)
  rw [List.map_map]
  rfl

theorem checkVariantNames_eq_ok_iff {types : DeclSet} (ordered : types.Ordered)
    {emitted : List String} {variants : List (String × String)} :
    checkVariantNames types emitted variants = .ok () ↔
      (variants.map fun pair => Name.variantTypeName pair.1 pair.2).Nodup ∧
        ∀ name ∈ variants.map fun pair => Name.variantTypeName pair.1 pair.2,
          name ∉ emitted ∧ Name.isIdentifier name = true ∧
            name ∉ types.toList.map TypeDecl.name := by
  induction variants generalizing emitted with
  | nil => simp [checkVariantNames]
  | cons pair rest induction =>
      obtain ⟨union, variant⟩ := pair
      rw [checkVariantNames, List.map_cons, List.nodup_cons, List.forall_mem_cons]
      generalize Name.variantTypeName union variant = name
      split
      case isTrue invalid =>
        simp only [reduceCtorEq, false_iff]
        rintro ⟨-, ⟨-, valid, -⟩, -⟩
        simp [valid] at invalid
      case isFalse valid =>
        split
        case isTrue taken =>
          simp only [reduceCtorEq, false_iff]
          rintro ⟨-, ⟨fresh, -, undeclared⟩, -⟩
          rw [Bool.or_eq_true, DeclSet.contains_iff ordered, List.contains_iff_mem] at taken
          exact taken.elim undeclared fresh
        case isFalse free =>
          rw [Bool.or_eq_true, DeclSet.contains_iff ordered, List.contains_iff_mem] at free
          obtain ⟨undeclared, fresh⟩ := not_or.mp free
          have identifier : Name.isIdentifier name = true := by simpa using valid
          rw [induction]
          constructor
          · rintro ⟨distinct, apart⟩
            have notAgain := fun again => (apart name again).1 List.mem_cons_self
            refine ⟨⟨notAgain, distinct⟩, ⟨fresh, identifier, undeclared⟩, fun other inside => ?_⟩
            obtain ⟨new, usable⟩ := apart other inside
            exact ⟨fun known => new (List.mem_cons_of_mem name known), usable⟩
          · rintro ⟨⟨notAgain, distinct⟩, -, apart⟩
            refine ⟨distinct, fun other inside => ?_⟩
            obtain ⟨new, usable⟩ := apart other inside
            refine ⟨fun known => ?_, usable⟩
            rcases List.mem_cons.mp known with rfl | known
            · exact notAgain inside
            · exact new known

theorem sortSignatures_eq_ok_iff {signatures sorted : List Signature} :
    sortSignatures signatures = .ok sorted ↔
      sorted.Perm signatures ∧ (sorted.map Signature.name).Pairwise (· < ·) := by
  rw [← NameOrder.sortDistinct_eq_ok_iff, sortSignatures]
  cases NameOrder.sortDistinct Signature.name signatures <;> simp

theorem sortSignatures_eq_of_perm {signatures others : List Signature}
    (distinct : (signatures.map Signature.name).Nodup) (perm : signatures.Perm others) :
    sortSignatures signatures = sortSignatures others := by
  rw [sortSignatures, sortSignatures, NameOrder.sortDistinct_eq_of_perm distinct perm]

theorem wellFormedAmong_of_perm {decls others : List TypeDecl} (perm : decls.Perm others)
    {decl : TypeDecl} (wellFormed : decl.WellFormedAmong decls) : decl.WellFormedAmong others where
  declarable := wellFormed.declarable
  not_primitive := wellFormed.not_primitive
  not_builtin := wellFormed.not_builtin
  union := wellFormed.union
  packed_scalars := wellFormed.packed_scalars
  packed_apart := fun reference inside packed known =>
    wellFormed.packed_apart reference inside packed (perm.mem_iff.mpr known)

/-- Whether a draft is well formed does not depend on the order of its parts. -/
theorem WellFormed.of_perm {draft other : ModuleDraft} (wellFormed : draft.WellFormed)
    (types : draft.types.Perm other.types) (signatures : draft.signatures.Perm other.signatures) :
    other.WellFormed := by
  have interfaces : (draft.types.flatMap TypeDecl.interfaceNames).Perm
      (other.types.flatMap TypeDecl.interfaceNames) :=
    types.flatMap_right TypeDecl.interfaceNames
  have names := types.map TypeDecl.name
  refine ⟨names.nodup_iff.mp wellFormed.types_distinct,
    (signatures.map Signature.name).nodup_iff.mp wellFormed.functions_distinct, ?_, ?_, ?_,
    interfaces.nodup_iff.mp wellFormed.interfaces_distinct⟩
  · intro decl inside
    exact wellFormedAmong_of_perm types (wellFormed.types decl (types.mem_iff.mpr inside))
  · intro signature inside
    exact wellFormed.functions signature (signatures.mem_iff.mpr inside)
  · intro name inside
    obtain ⟨identifier, undeclared⟩ := wellFormed.interfaces name (interfaces.mem_iff.mpr inside)
    exact ⟨identifier, fun declared => undeclared (names.mem_iff.mpr declared)⟩

/-- For types and functions in name order, the checks of a build are those of a well-formed
draft. -/
theorem checks_eq_ok_iff {types : DeclSet} {signatures : List Signature} (ordered : types.Ordered)
    (signatures_ordered : (signatures.map Signature.name).Pairwise (· < ·)) (name : String)
    (options : ModuleOptions) :
    (types.toList.forM (checkDecl types) = .ok () ∧
        (signatures.forM fun signature => checkName .function signature.name) = .ok () ∧
        checkVariantNames types [] (variantNames types) = .ok ()) ↔
      WellFormed ⟨name, options, types.toList, signatures⟩ := by
  simp only [forM_eq_ok_iff, checkDecl_eq_ok_iff ordered, checkName_eq_ok_iff,
    checkVariantNames_eq_ok_iff ordered, variantNames_eq, List.not_mem_nil, not_false_eq_true,
    true_and]
  constructor
  · rintro ⟨declarations, functions, interfaces_distinct, interfaces⟩
    exact ⟨NameOrder.nodup_of_increasing ordered,
      NameOrder.nodup_of_increasing signatures_ordered, declarations, functions, interfaces,
      interfaces_distinct⟩
  · intro wellFormed
    exact ⟨wellFormed.types, wellFormed.functions, wellFormed.interfaces_distinct,
      wellFormed.interfaces⟩

/-- A draft builds a module exactly if it is well formed and the module is the draft in name
order. -/
theorem build_eq_ok_iff {draft : ModuleDraft} {module : BindingModule} :
    draft.build = .ok module ↔ draft.WellFormed ∧ draft.Normalizes module := by
  constructor
  · intro built
    obtain ⟨types, typesOf, built⟩ := bind_eq_ok_iff.mp built
    obtain ⟨signatures, signaturesOf, built⟩ := bind_eq_ok_iff.mp built
    obtain ⟨declarations, built⟩ := then_eq_ok_iff.mp built
    obtain ⟨functions, built⟩ := then_eq_ok_iff.mp built
    obtain ⟨interfaces, built⟩ := then_eq_ok_iff.mp built
    cases built
    obtain ⟨types_perm, types_ordered⟩ := DeclSet.ofList_eq_ok_iff.mp typesOf
    obtain ⟨signatures_perm, signatures_ordered⟩ := sortSignatures_eq_ok_iff.mp signaturesOf
    have sorted := (checks_eq_ok_iff types_ordered signatures_ordered draft.name
      draft.options).mp ⟨declarations, functions, interfaces⟩
    exact ⟨sorted.of_perm types_perm signatures_perm,
      rfl, rfl, types_perm, types_ordered, signatures_perm, signatures_ordered⟩
  · rintro ⟨wellFormed, normalizes⟩
    have typesOf := DeclSet.ofList_eq_ok_iff.mpr
      ⟨normalizes.types_perm, normalizes.types_ordered⟩
    have signaturesOf := sortSignatures_eq_ok_iff.mpr
      ⟨normalizes.signatures_perm, normalizes.signatures_ordered⟩
    have sorted : WellFormed ⟨draft.name, draft.options, module.types.toList, module.signatures⟩ :=
      wellFormed.of_perm normalizes.types_perm.symm normalizes.signatures_perm.symm
    obtain ⟨declarations, functions, interfaces⟩ := (checks_eq_ok_iff normalizes.types_ordered
      normalizes.signatures_ordered draft.name draft.options).mpr sorted
    refine bind_eq_ok_iff.mpr ⟨_, typesOf, bind_eq_ok_iff.mpr ⟨_, signaturesOf, ?_⟩⟩
    refine then_eq_ok_iff.mpr ⟨declarations, then_eq_ok_iff.mpr ⟨functions, ?_⟩⟩
    refine then_eq_ok_iff.mpr ⟨interfaces, ?_⟩
    rw [← normalizes.name, ← normalizes.options]
    rfl

/-- What a draft builds does not depend on the order of its parts, if their names are distinct. -/
theorem build_eq_of_perm {draft other : ModuleDraft} (name : draft.name = other.name)
    (options : draft.options = other.options)
    (types_distinct : (draft.types.map TypeDecl.name).Nodup) (types : draft.types.Perm other.types)
    (functions_distinct : (draft.signatures.map Signature.name).Nodup)
    (signatures : draft.signatures.Perm other.signatures) : draft.build = other.build := by
  rw [build, build, DeclSet.ofList_eq_of_perm types_distinct types,
    sortSignatures_eq_of_perm functions_distinct signatures, name, options]

/-- A well-formed draft has a module in name order. -/
theorem WellFormed.exists_normalizes {draft : ModuleDraft} (wellFormed : draft.WellFormed) :
    ∃ module, draft.Normalizes module := by
  obtain ⟨types, typesOf⟩ := DeclSet.exists_ofList_iff.mpr wellFormed.types_distinct
  obtain ⟨signatures, signaturesOf⟩ :=
    NameOrder.exists_sortDistinct_iff.mpr wellFormed.functions_distinct
  obtain ⟨types_perm, types_ordered⟩ := DeclSet.ofList_eq_ok_iff.mp typesOf
  obtain ⟨signatures_perm, signatures_ordered⟩ := NameOrder.sortDistinct_eq_ok_iff.mp signaturesOf
  exact ⟨⟨draft.name, draft.options, types, signatures⟩,
    rfl, rfl, types_perm, types_ordered, signatures_perm, signatures_ordered⟩

/-- A draft builds a module exactly if it is well formed, and what it builds is the draft brought
into name order. -/
theorem build_accepts_exactly_wellFormed (draft : ModuleDraft) :
    ((∃ module, draft.build = .ok module) ↔ draft.WellFormed) ∧
      ∀ module, draft.build = .ok module ↔ draft.WellFormed ∧ draft.Normalizes module := by
  refine ⟨⟨?_, fun wellFormed => ?_⟩, fun module => build_eq_ok_iff⟩
  · rintro ⟨module, built⟩
    exact (build_eq_ok_iff.mp built).1
  · obtain ⟨module, normalizes⟩ := wellFormed.exists_normalizes
    exact ⟨module, build_eq_ok_iff.mpr ⟨wellFormed, normalizes⟩⟩

end ModuleDraft
end ForeignBindings
