import ForeignBindings.Proofs.Layout
import Mathlib.Algebra.Ring.Nat
import Mathlib.Order.Bounds.Basic

/-!
# Natural alignment

A struct has the natural layout of its fields: every slot begins at the least multiple of its width
that is not below the end of the slot in front of it, and the size is the least multiple of the
greatest width that is not below the end of the last slot.  There is one such layout at most.
Widths are powers of two, so its slots stay aligned when packed values lie side by side.
-/

namespace ForeignBindings

theorem Primitive.exists_width_eq_two_pow {primitive : Primitive} {width : Nat}
    (known : primitive.width? = some width) : ∃ exponent, width = 2 ^ exponent := by
  cases primitive <;> cases known <;>
    first | exact ⟨0, rfl⟩ | exact ⟨1, rfl⟩ | exact ⟨2, rfl⟩ | exact ⟨3, rfl⟩

/-- Of two widths the smaller one divides the greater one. -/
theorem Primitive.width_dvd_of_le {first second : Primitive} {width other : Nat}
    (known : first.width? = some width) (other_known : second.width? = some other)
    (le : width ≤ other) : width ∣ other := by
  obtain ⟨exponent, rfl⟩ := exists_width_eq_two_pow known
  obtain ⟨greater, rfl⟩ := exists_width_eq_two_pow other_known
  exact Nat.pow_dvd_pow 2 ((Nat.pow_le_pow_iff_right Nat.one_lt_two).mp le)

instance (type : TypeRef) : Decidable type.IsScalar :=
  decidable_of_iff ((type.primitive?.bind Primitive.width?).isSome) <| by
    cases type <;> simp [TypeRef.IsScalar, TypeRef.primitive?, Option.isSome_iff_exists]

namespace Layout

open Checks

/-- The multiples of a width that are not below an offset. -/
def alignedFrom (width offset : Nat) : Set Nat :=
  {place | width ∣ place ∧ offset ≤ place}

/-- The end of the last of some slots, or the offset where they start if there are none. -/
def endFrom (start : Nat) : List FieldSlot → Nat
  | [] => start
  | slot :: rest => endFrom (slot.offset + slot.width) rest

/-- Whether every slot holds a scalar at the least aligned offset behind the slots before it. -/
structure AreNatural (start : Nat) (slots : List FieldSlot) : Prop where
  /-- Every slot holds a scalar of its width. -/
  scalar : ∀ slot ∈ slots, slot.primitive.width? = some slot.width
  /-- Every slot begins at the least multiple of its width behind the slots before it. -/
  least : ∀ before slot after, slots = before ++ slot :: after →
    IsLeast (alignedFrom slot.width (endFrom start before)) slot.offset

/-- Whether a layout is the natural one of some fields. -/
structure IsNatural (fields : Fields) (layout : Layout) : Prop where
  /-- The slots are the fields in order. -/
  fields : layout.slots.map (fun slot => (slot.name, TypeRef.primitive slot.primitive)) =
    fields.toList
  /-- The slots begin at the least aligned offsets. -/
  slots : AreNatural 0 layout.slots
  /-- A struct without fields is aligned to single bytes. -/
  align_empty : layout.slots = [] → layout.align = 1
  /-- Any other struct is aligned to the greatest width of a field. -/
  align_greatest : layout.slots ≠ [] →
    IsGreatest {width | ∃ slot ∈ layout.slots, slot.width = width} layout.align
  /-- The size is the least multiple of the alignment behind the last slot. -/
  size : IsLeast (alignedFrom layout.align (endFrom 0 layout.slots)) layout.size

/-- Whether the slots of a layout can be read where they are, also in a row of packed values. -/
structure IsAligned (layout : Layout) : Prop where
  /-- Every slot begins at a multiple of its width. -/
  aligned : ∀ slot ∈ layout.slots, slot.width ∣ slot.offset
  /-- The offsets increase. -/
  increasing : layout.slots.Pairwise fun slot other => slot.offset < other.offset
  /-- No byte lies in two slots. -/
  disjoint : layout.slots.Pairwise fun slot other => ∀ index,
    ¬ ((slot.offset ≤ index ∧ index < slot.offset + slot.width) ∧
      (other.offset ≤ index ∧ index < other.offset + other.width))
  /-- Every slot lies within the packed value. -/
  inside : ∀ slot ∈ layout.slots, slot.offset + slot.width ≤ layout.size
  /-- Every slot of every packed value in a row begins at a multiple of its width. -/
  repeated : ∀ slot ∈ layout.slots, ∀ count, slot.width ∣ count * layout.size + slot.offset

theorem isLeast_alignUp (offset : Nat) {align : Nat} (positive : 0 < align) :
    IsLeast (alignedFrom align offset) (alignUp offset align) := by
  refine ⟨⟨Nat.dvd_mul_left .., le_alignUp offset positive⟩, ?_⟩
  rintro _ ⟨⟨count, rfl⟩, after⟩
  have below : offset + align - 1 < (count + 1) * align := by
    rw [Nat.succ_mul, Nat.mul_comm]
    omega
  have quotient_le := Nat.le_of_lt_succ ((Nat.div_lt_iff_lt_mul positive).mpr below)
  rw [alignUp, Nat.mul_comm align]
  exact Nat.mul_le_mul_right align quotient_le

theorem areNatural_nil (start : Nat) : AreNatural start [] := by
  refine ⟨nofun, fun before slot after split => ?_⟩
  exact absurd split (by simp)

theorem areNatural_cons_iff {start : Nat} {slot : FieldSlot} {rest : List FieldSlot} :
    AreNatural start (slot :: rest) ↔
      slot.primitive.width? = some slot.width ∧
        IsLeast (alignedFrom slot.width start) slot.offset ∧
        AreNatural (slot.offset + slot.width) rest := by
  constructor
  · rintro ⟨scalar, least⟩
    obtain ⟨first, others⟩ := List.forall_mem_cons.mp scalar
    refine ⟨first, least [] slot rest rfl, others, fun before other after split => ?_⟩
    exact least (slot :: before) other after (by rw [split, List.cons_append])
  · rintro ⟨first, here, scalar, least⟩
    refine ⟨List.forall_mem_cons.mpr ⟨first, scalar⟩, fun before other after split => ?_⟩
    cases before with
    | nil =>
        obtain ⟨rfl, rfl⟩ := List.cons.inj split
        exact here
    | cons head before =>
        obtain ⟨rfl, rfl⟩ := List.cons.inj split
        exact least before other after rfl

variable {typeName : String} {offset align : Nat} {slots : List FieldSlot} {final widest : Nat}

/-- Fields are placed at the least aligned offsets. -/
theorem areNatural_of_place {fields : List (String × TypeRef)}
    (placed : place typeName fields offset align = .ok (slots, final, widest)) :
    AreNatural offset slots ∧ final = endFrom offset slots := by
  induction fields generalizing offset align slots with
  | nil =>
      cases placed
      exact ⟨areNatural_nil _, rfl⟩
  | cons field rest induction =>
      obtain ⟨slot, others, rfl, -, known, start, rest_placed⟩ := exists_of_place_cons placed
      obtain ⟨natural, final_eq⟩ := induction rest_placed
      refine ⟨areNatural_cons_iff.mpr ⟨known, ?_, natural⟩, final_eq⟩
      rw [start]
      exact isLeast_alignUp offset (Primitive.width?_pos known)

/-- The greatest width of the fields is kept, unless it is below the alignment to begin with. -/
theorem isGreatest_of_place {fields : List (String × TypeRef)}
    (placed : place typeName fields offset align = .ok (slots, final, widest)) :
    IsGreatest (insert align {width | ∃ slot ∈ slots, slot.width = width}) widest := by
  induction fields generalizing offset align slots with
  | nil =>
      cases placed
      simp
  | cons field rest induction =>
      obtain ⟨slot, others, rfl, -, -, -, rest_placed⟩ := exists_of_place_cons placed
      obtain ⟨member, upper⟩ := induction rest_placed
      have max_le := upper (Set.mem_insert _ _)
      constructor
      · rcases member with isMax | ⟨other, inside, attained⟩
        · rcases Nat.le_total align slot.width with le | ge
          · rw [Nat.max_eq_right le] at isMax
            exact .inr ⟨slot, List.mem_cons_self, isMax.symm⟩
          · rw [Nat.max_eq_left ge] at isMax
            exact .inl isMax
        · exact .inr ⟨other, List.mem_cons_of_mem slot inside, attained⟩
      · rintro width (rfl | ⟨other, inside, rfl⟩)
        · omega
        · rcases List.mem_cons.mp inside with rfl | inside
          · omega
          · exact upper (.inr ⟨other, inside, rfl⟩)

theorem isNatural_of_ofFields {fields : Fields} {layout : Layout}
    (placed : ofFields typeName fields = .ok layout) : layout.IsNatural fields := by
  have same := (ofFields_eq_ok placed).1
  obtain ⟨⟨slots, final, align⟩, succeeded, placed⟩ := bind_eq_ok_iff.mp placed
  cases placed
  obtain ⟨natural, rfl⟩ := areNatural_of_place succeeded
  obtain ⟨member, upper⟩ := isGreatest_of_place succeeded
  have positive : 1 ≤ align := upper (Set.mem_insert _ _)
  refine ⟨same, natural, ?_, fun inhabited => ⟨?_, fun width held => upper (.inr held)⟩,
    isLeast_alignUp _ positive⟩
  · rintro rfl
    rcases member with isOne | ⟨slot, inside, -⟩
    · exact isOne
    · cases inside
  · rcases member with isOne | held
    · -- A field of width one attains the least alignment.
      obtain ⟨slot, rest, rfl⟩ := List.exists_cons_of_ne_nil inhabited
      have width_pos := Primitive.width?_pos (natural.scalar slot List.mem_cons_self)
      have width_le : slot.width ≤ align := upper (.inr ⟨slot, List.mem_cons_self, rfl⟩)
      obtain rfl : align = 1 := isOne
      exact ⟨slot, List.mem_cons_self, Nat.le_antisymm width_le width_pos⟩
    · exact held

theorem AreNatural.eq {start : Nat} {slots others : List FieldSlot}
    (natural : AreNatural start slots) (other_natural : AreNatural start others)
    (same : slots.map (fun slot => (slot.name, TypeRef.primitive slot.primitive)) =
      others.map fun slot => (slot.name, TypeRef.primitive slot.primitive)) : slots = others := by
  induction slots generalizing start others with
  | nil => exact (List.map_eq_nil_iff.mp same.symm).symm
  | cons slot slots induction =>
      obtain ⟨other, others, rfl, equal, rest⟩ := List.map_eq_cons_iff.mp same.symm
      obtain ⟨name, type⟩ := Prod.mk.inj equal
      have primitive : other.primitive = slot.primitive := TypeRef.primitive.inj type
      obtain ⟨-, least, natural⟩ := areNatural_cons_iff.mp natural
      obtain ⟨-, other_least, other_natural⟩ := areNatural_cons_iff.mp other_natural
      have width : other.width = slot.width := by rw [FieldSlot.width, primitive, FieldSlot.width]
      rw [width] at other_least other_natural
      have offset := other_least.unique least
      rw [offset] at other_natural
      rw [induction natural other_natural rest.symm]
      cases slot
      cases other
      simp_all

theorem IsNatural.eq {fields : Fields} {layout other : Layout} (natural : layout.IsNatural fields)
    (other_natural : other.IsNatural fields) : layout = other := by
  obtain ⟨slots, size, align⟩ := layout
  obtain ⟨others, otherSize, otherAlign⟩ := other
  have same := natural.fields.trans other_natural.fields.symm
  obtain rfl : slots = others := natural.slots.eq other_natural.slots same
  obtain rfl : align = otherAlign := by
    by_cases empty : slots = []
    · exact (natural.align_empty empty).trans (other_natural.align_empty empty).symm
    · exact (natural.align_greatest empty).unique (other_natural.align_greatest empty)
  obtain rfl : size = otherSize := natural.size.unique other_natural.size
  rfl

/-- The layout of a struct is the natural one of its fields. -/
theorem ofFields_eq_ok_iff (typeName : String) {fields : Fields} {layout : Layout} :
    ofFields typeName fields = .ok layout ↔ layout.IsNatural fields := by
  refine ⟨isNatural_of_ofFields, fun natural => ?_⟩
  have scalars : ∀ field ∈ fields.toList, field.2.IsScalar := by
    rw [← natural.fields, List.forall_mem_map]
    exact fun slot inside => ⟨_, _, rfl, natural.slots.scalar slot inside⟩
  obtain ⟨other, placed⟩ := (exists_ofFields_iff typeName).mpr scalars
  rw [placed, (isNatural_of_ofFields placed).eq natural]

theorem scalarField_of_not_isScalar {typeName field : String} {type : TypeRef}
    (refused : ¬ type.IsScalar) :
    scalarField typeName field type = .error (.fixedLayoutField typeName field) := by
  cases type with
  | declared name => rfl
  | primitive primitive =>
      cases known : primitive.width? with
      | none => simp only [scalarField, known]
      | some width => exact absurd ⟨primitive, width, rfl, known⟩ refused

/-- Placing fails with the first field that is no scalar. -/
theorem place_eq_error_iff {typeName : String} {fields : List (String × TypeRef)}
    {offset align : Nat} {fault : ModuleError} :
    place typeName fields offset align = .error fault ↔
      ∃ field, fields.find? (fun field => ¬ field.2.IsScalar) = some field ∧
        fault = .fixedLayoutField typeName field.1 := by
  induction fields generalizing offset align with
  | nil => simp [place]
  | cons field rest induction =>
      obtain ⟨fieldName, type⟩ := field
      rw [place]
      by_cases scalar : type.IsScalar
      · rw [List.find?_cons_of_neg (by simpa using scalar)]
        obtain ⟨primitive, width, known⟩ := scalar
        rw [scalarField_eq_ok_iff.mpr known, ← induction]
        change (place typeName rest (alignUp offset width + width) (max align width) >>= _) = _ ↔ _
        refine bind_eq_error_iff.trans (or_iff_left ?_)
        rintro ⟨placed, -, succeeded⟩
        cases succeeded
      · rw [List.find?_cons_of_pos (by simpa using scalar), scalarField_of_not_isScalar scalar]
        constructor
        · rintro ⟨⟩
          exact ⟨_, rfl, rfl⟩
        · rintro ⟨_, ⟨⟩, rfl⟩
          rfl

/-- Every slot begins behind the start and ends before the slots behind it begin. -/
theorem AreNatural.ordered {start : Nat} {slots : List FieldSlot}
    (natural : AreNatural start slots) :
    (∀ slot ∈ slots, start ≤ slot.offset ∧ slot.offset + slot.width ≤ endFrom start slots) ∧
      start ≤ endFrom start slots ∧
      slots.Pairwise fun slot other => slot.offset + slot.width ≤ other.offset := by
  induction slots generalizing start with
  | nil => exact ⟨nofun, Nat.le_refl start, .nil⟩
  | cons slot slots induction =>
      obtain ⟨-, least, natural⟩ := areNatural_cons_iff.mp natural
      obtain ⟨within, le_end, ordered⟩ := induction natural
      have behind : start ≤ slot.offset := least.1.2
      rw [endFrom]
      refine ⟨List.forall_mem_cons.mpr ⟨⟨behind, le_end⟩, fun other inside => ?_⟩, by omega,
        .cons (fun other inside => (within other inside).1) ordered⟩
      have other_within := within other inside
      omega

/-- The width of a slot divides the alignment. -/
theorem IsNatural.width_dvd_align {fields : Fields} {layout : Layout}
    (natural : layout.IsNatural fields) {slot : FieldSlot} (inside : slot ∈ layout.slots) :
    slot.width ∣ layout.align := by
  obtain ⟨⟨widest, widest_inside, attained⟩, upper⟩ :=
    natural.align_greatest (List.ne_nil_of_mem inside)
  have scalar := natural.slots.scalar
  rw [← attained] at upper ⊢
  exact Primitive.width_dvd_of_le (scalar slot inside) (scalar widest widest_inside)
    (upper ⟨slot, inside, rfl⟩)

theorem IsNatural.isAligned {fields : Fields} {layout : Layout}
    (natural : layout.IsNatural fields) : layout.IsAligned := by
  obtain ⟨within, -, ordered⟩ := natural.slots.ordered
  have aligned : ∀ slot ∈ layout.slots, slot.width ∣ slot.offset := fun slot inside => by
    obtain ⟨before, after, split⟩ := List.append_of_mem inside
    exact (natural.slots.least before slot after split).1.1
  refine ⟨aligned, ?_, ?_, fun slot inside => ?_, fun slot inside count => ?_⟩
  · refine ordered.imp_of_mem fun inside _ before => ?_
    have positive := Primitive.width?_pos (natural.slots.scalar _ inside)
    omega
  · refine ordered.imp fun before index => ?_
    omega
  · exact (within slot inside).2.trans natural.size.1.2
  · have size_dvd : slot.width ∣ layout.size :=
      Nat.dvd_trans (natural.width_dvd_align inside) natural.size.1.1
    exact Nat.dvd_add (Nat.dvd_mul_left_of_dvd size_dvd count) (aligned slot inside)

/-- A struct has the natural layout of its fields and no other, in which its slots are aligned and
apart, unless a field is no scalar of fixed width; then the first such field is named. -/
theorem ofFields_computes_natural_layout (typeName : String) (fields : Fields) :
    (∀ layout : Layout, ofFields typeName fields = .ok layout ↔ layout.IsNatural fields) ∧
      (∀ layout : Layout, layout.IsNatural fields → layout.IsAligned) ∧
      ∀ fault, ofFields typeName fields = .error fault ↔
        ∃ field, fields.toList.find? (fun field => ¬ field.2.IsScalar) = some field ∧
          fault = .fixedLayoutField typeName field.1 := by
  refine ⟨fun layout => ofFields_eq_ok_iff typeName, fun layout => IsNatural.isAligned,
    fun fault => ?_⟩
  rw [ofFields, ← place_eq_error_iff]
  refine bind_eq_error_iff.trans (or_iff_left ?_)
  rintro ⟨placed, -, succeeded⟩
  cases succeeded

/-- A byte, eight bytes and two bytes, in this order. -/
def widthsFields : Fields :=
  .ofList [("kind", .primitive .u8), ("total", .primitive .f64), ("step", .primitive .i16)]

/-- The layout of these fields, with padding behind the first and the last of them. -/
def widthsLayout : Layout :=
  ⟨[⟨"kind", .u8, 0⟩, ⟨"total", .f64, 8⟩, ⟨"step", .i16, 16⟩], 24, 8⟩

/-- Seven bytes of padding are the least that align eight bytes behind a single one, and of the text
and the nested value among other fields the first is named. -/
theorem natural_layout_of_widths :
    widthsLayout.IsNatural widthsFields ∧ widthsLayout.IsAligned ∧
      ofFields "Row" (.ofList [("id", .primitive .u64), ("label", .primitive .str),
        ("inner", .declared "Row")]) = .error (.fixedLayoutField "Row" "label") := by
  obtain ⟨computes, aligned, -⟩ := ofFields_computes_natural_layout "Widths" widthsFields
  obtain ⟨-, -, refused⟩ := ofFields_computes_natural_layout "Row"
    (.ofList [("id", .primitive .u64), ("label", .primitive .str), ("inner", .declared "Row")])
  have natural : widthsLayout.IsNatural widthsFields := (computes widthsLayout).mp (by decide)
  exact ⟨natural, aligned widthsLayout natural,
    (refused _).mpr ⟨("label", .primitive .str), by decide, rfl⟩⟩

end Layout
end ForeignBindings
