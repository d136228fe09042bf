import ForeignBindings.DeclSet
import ForeignBindings.Proofs.NameOrder
import ForeignBindings.Proofs.Text.EncodedOrder

/-!
# Lookup in declaration sets

The set of a list of declarations holds the same declarations in strictly increasing name order,
and there is one exactly if no name is declared twice; otherwise the least such name is told.  In a
set a name finds the declaration of that name if there is one.
-/

namespace ForeignBindings
namespace DeclSet

/-- Whether the declarations of a set stand in strictly increasing name order. -/
def Ordered (types : DeclSet) : Prop :=
  (types.toList.map TypeDecl.name).Pairwise (· < ·)

theorem ofList_eq_ok_iff {decls : List TypeDecl} {types : DeclSet} :
    ofList decls = .ok types ↔ types.toList.Perm decls ∧ types.Ordered := by
  rw [ofList]
  constructor
  · intro succeeded
    cases sorting : NameOrder.sortDistinct TypeDecl.name decls with
    | error repeated =>
        rw [sorting] at succeeded
        cases succeeded
    | ok sorted =>
        rw [sorting] at succeeded
        cases succeeded
        exact NameOrder.sortDistinct_eq_ok_iff.mp sorting
  · intro ordered
    rw [NameOrder.sortDistinct_eq_ok_iff.mpr ordered]
    rfl

/-- The least name, by the bytes of names, that is declared more than once. -/
def IsLeastRepeated (decls : List TypeDecl) (name : String) : Prop :=
  1 < (decls.map TypeDecl.name).count name ∧
    ∀ other, 1 < (decls.map TypeDecl.name).count other → Text.utf8 name ≤ Text.utf8 other

/-- A list of declarations that makes no set repeats a name, and the least such name is told. -/
theorem ofList_eq_error_iff {decls : List TypeDecl} {cause : ModuleError} :
    ofList decls = .error cause ↔
      ∃ name, cause = .duplicateType name ∧ IsLeastRepeated decls name := by
  simp only [IsLeastRepeated, Text.utf8_le_utf8_iff, ← NameOrder.sortDistinct_eq_error_iff]
  rw [ofList]
  cases NameOrder.sortDistinct TypeDecl.name decls with
  | ok sorted => simp
  | error repeated => simp [eq_comm]

/-- A list of declarations makes a set exactly if no name is declared twice. -/
theorem exists_ofList_iff {decls : List TypeDecl} :
    (∃ types, ofList decls = .ok types) ↔ (decls.map TypeDecl.name).Nodup := by
  rw [← NameOrder.exists_sortDistinct_iff]
  constructor
  · rintro ⟨types, succeeded⟩
    exact ⟨types.toList, NameOrder.sortDistinct_eq_ok_iff.mpr (ofList_eq_ok_iff.mp succeeded)⟩
  · rintro ⟨sorted, succeeded⟩
    have ordered := NameOrder.sortDistinct_eq_ok_iff.mp succeeded
    exact ⟨⟨sorted.toArray⟩, ofList_eq_ok_iff.mpr ordered⟩

/-- The set of declarations with pairwise distinct names does not depend on their order. -/
theorem ofList_eq_of_perm {decls others : List TypeDecl}
    (distinct : (decls.map TypeDecl.name).Nodup) (perm : decls.Perm others) :
    ofList decls = ofList others := by
  rw [ofList, ofList, NameOrder.sortDistinct_eq_of_perm distinct perm]

/-- A name finds exactly the declaration of that name. -/
theorem find?_eq_some_iff {types : DeclSet} (ordered : types.Ordered) {name : String}
    {decl : TypeDecl} : types.find? name = some decl ↔ decl ∈ types.toList ∧ decl.name = name := by
  rw [find?, NameOrder.search_eq_some_iff ordered, toList, Array.mem_toList_iff]

theorem find?_eq_none_iff {types : DeclSet} (ordered : types.Ordered) {name : String} :
    types.find? name = none ↔ name ∉ types.toList.map TypeDecl.name := by
  rw [Option.eq_none_iff_forall_ne_some, List.mem_map, not_exists]
  exact forall_congr' fun decl => not_congr (find?_eq_some_iff ordered)

theorem contains_iff {types : DeclSet} (ordered : types.Ordered) {name : String} :
    types.contains name = true ↔ name ∈ types.toList.map TypeDecl.name := by
  rw [contains, ← not_iff_not, ← find?_eq_none_iff ordered, Option.not_isSome_iff_eq_none]

/-- No set is made exactly of declarations that repeat a name, and then the least such name is told,
whatever the order of the declarations.  A set holds the same declarations in strictly increasing
order of the bytes of their names, and a name finds the only declaration of that name, or none if
there is none. -/
theorem ofList_sorts_and_finds (decls : List TypeDecl) :
    ((∃ cause, ofList decls = .error cause) ↔ ¬ (decls.map TypeDecl.name).Nodup) ∧
    (∀ cause, ofList decls = .error cause ↔
      ∃ name, cause = .duplicateType name ∧ IsLeastRepeated decls name) ∧
    ∀ types, ofList decls = .ok types →
      types.toList.Perm decls ∧
      types.toList.Pairwise (fun decl other => Text.utf8 decl.name < Text.utf8 other.name) ∧
      ∀ name,
        (∀ decl, types.find? name = some decl ↔ decl ∈ decls ∧ decl.name = name) ∧
        (types.find? name = none ↔ ∀ decl ∈ decls, decl.name ≠ name) ∧
        (types.contains name = true ↔ ∃ decl ∈ decls, decl.name = name) := by
  refine ⟨?_, fun cause => ofList_eq_error_iff, fun types made => ?_⟩
  · rw [← exists_ofList_iff]
    cases ofList decls <;> simp
  · obtain ⟨perm, ordered⟩ := ofList_eq_ok_iff.mp made
    have declared (name : String) :
        name ∈ types.toList.map TypeDecl.name ↔ ∃ decl ∈ decls, decl.name = name := by
      rw [(perm.map TypeDecl.name).mem_iff, List.mem_map]
    refine ⟨perm, ?_, fun name => ⟨fun decl => ?_, ?_, ?_⟩⟩
    · exact (List.pairwise_map.mp ordered).imp Text.utf8_lt_of_lt
    · rw [find?_eq_some_iff ordered, perm.mem_iff]
    · rw [find?_eq_none_iff ordered, declared]
      simp only [not_exists, not_and, ne_eq]
    · rw [contains_iff ordered, declared]

/-- A struct without fields. -/
def bareStruct (name : String) : TypeDecl :=
  ⟨name, .struct ⟨.empty, .structured⟩, none, none⟩

/-- Of two repeated names the one with the lesser bytes is told, though it comes last, and without
the repetitions each name finds its struct. -/
theorem ofList_sorts_and_finds_places :
    ofList (["Öl", "Öl", "Ort", "Zaun", "Zaun"].map bareStruct) =
        .error (.duplicateType "Zaun") ∧
      ∃ types, ofList (["Öl", "Ort", "Zaun"].map bareStruct) = .ok types ∧
        types.find? "Öl" = some (bareStruct "Öl") ∧ types.find? "Oel" = none ∧
        types.contains "Zaun" = true := by
  obtain ⟨-, told, -⟩ := ofList_sorts_and_finds (["Öl", "Öl", "Ort", "Zaun", "Zaun"].map bareStruct)
  obtain ⟨fails, -, finds⟩ := ofList_sorts_and_finds (["Öl", "Ort", "Zaun"].map bareStruct)
  have least : IsLeastRepeated (["Öl", "Öl", "Ort", "Zaun", "Zaun"].map bareStruct) "Zaun" := by
    have among : ∀ other ∈ ["Öl", "Öl", "Ort", "Zaun", "Zaun"],
        1 < ["Öl", "Öl", "Ort", "Zaun", "Zaun"].count other →
          Text.utf8 "Zaun" ≤ Text.utf8 other := by decide
    refine ⟨by decide, fun other often => ?_⟩
    exact among other (List.count_pos_iff.mp (Nat.zero_lt_of_lt often)) often
  refine ⟨(told _).mpr ⟨"Zaun", rfl, least⟩, ?_⟩
  cases made : ofList (["Öl", "Ort", "Zaun"].map bareStruct) with
  | error cause => exact absurd (by decide) (fails.mp ⟨cause, made⟩)
  | ok types =>
      obtain ⟨-, -, finds⟩ := finds types made
      refine ⟨types, rfl, ((finds "Öl").1 _).mpr ⟨by decide, rfl⟩, (finds "Oel").2.1.mpr ?_,
        (finds "Zaun").2.2.mpr ⟨bareStruct "Zaun", by decide, rfl⟩⟩
      decide

end DeclSet
end ForeignBindings
