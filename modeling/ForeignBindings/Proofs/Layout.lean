import ForeignBindings.Layout
import ForeignBindings.Proofs.Checks

/-!
# Places of packed fields

A struct has a layout exactly if all its fields are scalars of fixed width.  The layout then has one
slot for each field, in the order of the fields, and every slot ends within the packed value.
-/

namespace ForeignBindings

/-- Whether a type is a scalar of fixed width. -/
def TypeRef.IsScalar (type : TypeRef) : Prop :=
  ∃ primitive width, type = .primitive primitive ∧ primitive.width? = some width

theorem FieldSlot.width?_eq {slot : FieldSlot} {width : Nat}
    (known : slot.primitive.width? = some width) : slot.width = width := by
  rw [FieldSlot.width, known, Option.getD_some]

namespace Layout

open Checks

theorem le_alignUp (offset : Nat) {align : Nat} (positive : 0 < align) :
    offset ≤ alignUp offset align := by
  have split := Nat.div_add_mod (offset + align - 1) align
  have small := Nat.mod_lt (offset + align - 1) positive
  rw [alignUp, Nat.mul_comm]
  omega

theorem scalarField_eq_ok_iff {typeName field : String} {type : TypeRef} {primitive : Primitive}
    {width : Nat} :
    scalarField typeName field type = .ok (primitive, width) ↔
      type = .primitive primitive ∧ primitive.width? = some width := by
  cases type with
  | declared name => simp [scalarField]
  | primitive known =>
      rw [scalarField, TypeRef.primitive.injEq]
      split
      case h_1 found equation =>
        rw [Except.ok.injEq, Prod.mk.injEq]
        constructor
        · rintro ⟨rfl, rfl⟩
          exact ⟨rfl, equation⟩
        · rintro ⟨rfl, same⟩
          exact ⟨rfl, Option.some.inj (equation.symm.trans same)⟩
      case h_2 equation =>
        simp only [reduceCtorEq, false_iff, not_and]
        rintro rfl same
        cases equation.symm.trans same

theorem exists_place_iff (typeName : String) {fields : List (String × TypeRef)}
    (offset align : Nat) :
    (∃ placed, place typeName fields offset align = .ok placed) ↔
      ∀ field ∈ fields, field.2.IsScalar := by
  induction fields generalizing offset align with
  | nil => simp [place]
  | cons field rest induction =>
      obtain ⟨fieldName, type⟩ := field
      simp only [place, bind_eq_ok_iff, List.forall_mem_cons]
      constructor
      · rintro ⟨placed, ⟨primitive, width⟩, scalar, after, rest_placed, -⟩
        exact ⟨⟨primitive, width, scalarField_eq_ok_iff.mp scalar⟩,
          (induction _ _).mp ⟨_, rest_placed⟩⟩
      · rintro ⟨⟨primitive, width, scalar⟩, rest_scalar⟩
        obtain ⟨after, rest_placed⟩ := (induction _ _).mpr rest_scalar
        exact ⟨_, _, scalarField_eq_ok_iff.mpr scalar, after, rest_placed, rfl⟩

/-- A struct has a layout exactly if all its fields are scalars of fixed width. -/
theorem exists_ofFields_iff (typeName : String) {fields : Fields} :
    (∃ layout, ofFields typeName fields = .ok layout) ↔
      ∀ field ∈ fields.toList, field.2.IsScalar := by
  rw [← exists_place_iff typeName 0 1]
  simp only [ofFields, bind_eq_ok_iff]
  constructor
  · rintro ⟨_, placed, succeeded, -⟩
    exact ⟨placed, succeeded⟩
  · rintro ⟨placed, succeeded⟩
    exact ⟨_, placed, succeeded, rfl⟩

/-- The first field is placed at the next multiple of its width, and the others behind it. -/
theorem exists_of_place_cons {typeName : String} {field : String × TypeRef}
    {rest : List (String × TypeRef)} {offset align : Nat} {slots : List FieldSlot}
    {final widest : Nat}
    (placed : place typeName (field :: rest) offset align = .ok (slots, final, widest)) :
    ∃ slot others, slots = slot :: others ∧ field = (slot.name, .primitive slot.primitive) ∧
      slot.primitive.width? = some slot.width ∧ slot.offset = alignUp offset slot.width ∧
      place typeName rest (slot.offset + slot.width) (max align slot.width) =
        .ok (others, final, widest) := by
  obtain ⟨fieldName, type⟩ := field
  obtain ⟨⟨primitive, width⟩, scalar, placed⟩ := bind_eq_ok_iff.mp placed
  obtain ⟨⟨others, last, greatest⟩, rest_placed, placed⟩ := bind_eq_ok_iff.mp placed
  cases placed
  obtain ⟨rfl, known⟩ := scalarField_eq_ok_iff.mp scalar
  have width_eq : (FieldSlot.mk fieldName primitive (alignUp offset width)).width = width :=
    FieldSlot.width?_eq known
  refine ⟨_, others, rfl, rfl, ?_, ?_, ?_⟩ <;> rw [width_eq]
  · exact known
  · exact rest_placed

theorem place_eq_ok {typeName : String} {fields : List (String × TypeRef)} {offset align : Nat}
    {slots : List FieldSlot} {final widest : Nat}
    (placed : place typeName fields offset align = .ok (slots, final, widest)) :
    slots.map (fun slot => (slot.name, TypeRef.primitive slot.primitive)) = fields ∧
      (offset ≤ final ∧ align ≤ widest) ∧ ∀ slot ∈ slots, slot.offset + slot.width ≤ final := by
  induction fields generalizing offset align slots final widest with
  | nil =>
      cases placed
      exact ⟨rfl, ⟨Nat.le_refl _, Nat.le_refl _⟩, nofun⟩
  | cons field rest induction =>
      obtain ⟨slot, others, rfl, rfl, known, start, rest_placed⟩ := exists_of_place_cons placed
      obtain ⟨same, ⟨start_le, align_le⟩, inside⟩ := induction rest_placed
      have aligned := le_alignUp offset (Primitive.width?_pos known)
      refine ⟨by rw [List.map_cons, same], ⟨by omega, by omega⟩, ?_⟩
      exact List.forall_mem_cons.mpr ⟨start_le, inside⟩

/-- A layout has one slot for each field, and every slot lies within the packed value. -/
theorem ofFields_eq_ok {typeName : String} {fields : Fields} {layout : Layout}
    (placed : ofFields typeName fields = .ok layout) :
    layout.slots.map (fun slot => (slot.name, TypeRef.primitive slot.primitive)) = fields.toList ∧
      ∀ slot ∈ layout.slots, slot.offset + slot.width ≤ layout.size := by
  obtain ⟨⟨slots, final, align⟩, succeeded, placed⟩ := bind_eq_ok_iff.mp placed
  cases placed
  obtain ⟨same, ⟨-, positive⟩, inside⟩ := place_eq_ok succeeded
  have size_ge := le_alignUp final positive
  exact ⟨same, fun slot known => Nat.le_trans (inside slot known) size_ge⟩

/-- Every slot begins at or behind the offset, and ends before the slots behind it begin. -/
theorem ordered_of_place {typeName : String} {fields : List (String × TypeRef)}
    {offset align : Nat} {slots : List FieldSlot} {final widest : Nat}
    (placed : place typeName fields offset align = .ok (slots, final, widest)) :
    (∀ slot ∈ slots, offset ≤ slot.offset) ∧
      slots.Pairwise fun slot other => slot.offset + slot.width ≤ other.offset := by
  induction fields generalizing offset align slots final widest with
  | nil =>
      cases placed
      exact ⟨nofun, .nil⟩
  | cons field rest induction =>
      obtain ⟨slot, others, rfl, -, known, start, rest_placed⟩ := exists_of_place_cons placed
      obtain ⟨behind, ordered⟩ := induction rest_placed
      have aligned := le_alignUp offset (Primitive.width?_pos known)
      refine ⟨List.forall_mem_cons.mpr ⟨by omega, fun other inside => ?_⟩, .cons behind ordered⟩
      have after := behind other inside
      omega

/-- A layout in which every slot holds a scalar within the packed value, one slot behind the other,
and no name occurs twice. -/
structure IsPlaced (layout : Layout) : Prop where
  /-- Every slot holds a scalar of its width. -/
  scalar : ∀ slot ∈ layout.slots, slot.primitive.width? = some slot.width
  /-- Every slot lies within the packed value. -/
  inside : ∀ slot ∈ layout.slots, slot.offset + slot.width ≤ layout.size
  /-- Every slot ends before the slots behind it begin. -/
  ordered : layout.slots.Pairwise fun slot other => slot.offset + slot.width ≤ other.offset
  /-- The names differ. -/
  distinct : (layout.slots.map FieldSlot.name).Nodup

/-- The names of the slots of a layout are those of the fields. -/
theorem names_of_ofFields {typeName : String} {fields : Fields} {layout : Layout}
    (placed : ofFields typeName fields = .ok layout) :
    layout.slots.map FieldSlot.name = fields.names := by
  rw [Entries.names, ← (ofFields_eq_ok placed).1, List.map_map]
  rfl

/-- Every slot of a layout belongs to a field. -/
theorem mem_of_ofFields {typeName : String} {fields : Fields} {layout : Layout}
    (placed : ofFields typeName fields = .ok layout) {slot : FieldSlot}
    (inside : slot ∈ layout.slots) : (slot.name, .primitive slot.primitive) ∈ fields.toList := by
  rw [← (ofFields_eq_ok placed).1]
  exact List.mem_map.mpr ⟨slot, inside, rfl⟩

theorem isPlaced_of_ofFields {typeName : String} {fields : Fields} {layout : Layout}
    (placed : ofFields typeName fields = .ok layout) : layout.IsPlaced := by
  refine ⟨fun slot inside => ?_, (ofFields_eq_ok placed).2, ?_,
    names_of_ofFields placed ▸ fields.names_nodup⟩
  · obtain ⟨primitive, width, isPrimitive, scalar⟩ :=
      (exists_ofFields_iff typeName).mp ⟨layout, placed⟩ _ (mem_of_ofFields placed inside)
    cases isPrimitive
    rw [FieldSlot.width?_eq scalar, scalar]
  · obtain ⟨⟨slots, final, align⟩, succeeded, placed⟩ := bind_eq_ok_iff.mp placed
    cases placed
    exact (ordered_of_place succeeded).2

end Layout
end ForeignBindings
