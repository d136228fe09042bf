import ForeignBindings.Proofs.Wire.Acceptance
import ForeignBindings.Proofs.Wire.PackedBytes
import ForeignBindings.Proofs.Wire.ScalarRanges

/-!
# Packed values and structured text

A struct of scalars can cross the boundary in both encodings, and both accept the same values of its
fields.  Packing looks at the fields only, so it also accepts an object with more members, which
structured text refuses.  A field that is present but of another type is refused by both with the
same words.
-/

namespace ForeignBindings

namespace Structured

open Checks

variable {types : DeclSet} {members : List (String × Json)}

/-- Whether an object has a member for a field, and the member is of the type of the field. -/
def HasField (types : DeclSet) (members : List (String × Json)) (field : String × TypeRef) : Prop :=
  ∃ member, Json.member? members field.1 = some member ∧ validate types field.2 member = .ok ()

theorem validate_primitive_eq_ok_iff {primitive : Primitive} {value : Json} :
    validate types (.primitive primitive) value = .ok () ↔ isOfPrimitive primitive value = true :=
  checkPrimitive_eq_ok_iff

/-- The check of a scalar is the same at every depth and at every path, but for the path that it
names. -/
theorem checkWithin_eq_ok_iff_of_isScalar {type : TypeRef} (scalar : type.IsScalar) {levels : Nat}
    {value : Json} {path : String} :
    checkWithin types (levels + 1) type value path = .ok () ↔
      validate types type value = .ok () := by
  obtain ⟨primitive, width, rfl, -⟩ := scalar
  exact checkPrimitive_eq_ok_iff.trans validate_primitive_eq_ok_iff.symm

theorem checkWithin_eq_error_of_isScalar {type : TypeRef} (scalar : type.IsScalar) {levels : Nat}
    {value : Json} {path : String} (refused : validate types type value ≠ .ok ()) :
    checkWithin types (levels + 1) type value path =
      .error (.shape path ("`" ++ type.name ++ "`")) := by
  obtain ⟨primitive, width, rfl, -⟩ := scalar
  exact if_neg (mt validate_primitive_eq_ok_iff.mpr refused)

/-- A member that is refused behind members that are accepted is the fault of the object. -/
theorem checkMembers_eq_error {check : Check} {path : String}
    {before after : List (String × TypeRef)} {field : String × TypeRef} {member : Json}
    {fault : WireError} (accepted : checkMembers check members path before = .ok ())
    (found : Json.member? members field.1 = some member)
    (refused : check field.2 member (path ++ "." ++ field.1) = .error fault) :
    checkMembers check members path (before ++ field :: after) = .error fault := by
  induction before with
  | nil =>
      rw [List.nil_append, checkMembers, found]
      exact bind_eq_error_iff.mpr (.inl refused)
  | cons first before induction =>
      rw [List.cons_append, checkMembers]
      rw [checkMembers] at accepted
      cases held : Json.member? members first.1 with
      | none =>
          rw [held] at accepted
          cases accepted
      | some value =>
          rw [held] at accepted
          obtain ⟨typed, accepted⟩ := then_eq_ok_iff.mp accepted
          exact bind_eq_error_iff.mpr (.inr ⟨(), typed, induction accepted⟩)

section Struct

variable {name : String} {decl : TypeDecl} {fields : Fields} {encoding : Encoding}

theorem validate_struct (known : types.find? name = some decl)
    (isStruct : decl.kind = .struct ⟨fields, encoding⟩) (value : Json) :
    validate types (.declared name) value =
      checkFields (checkWithin types value.depth) fields value "$" name := by
  simp only [validate, checkWithin, known, isStruct]

/-- A struct of scalars is accepted exactly if it is an object with the fields and no other
member. -/
theorem validate_struct_eq_ok_iff (known : types.find? name = some decl)
    (isStruct : decl.kind = .struct ⟨fields, encoding⟩)
    (scalars : ∀ field ∈ fields.toList, field.2.IsScalar) {value : Json} :
    validate types (.declared name) value = .ok () ↔
      ∃ members, value = .object members ∧ (∀ field ∈ fields.toList, HasField types members field) ∧
        ∀ member ∈ members, member.1 ∈ fields.names := by
  rw [validate_struct known isStruct, checkFields_eq_ok_iff]
  refine exists_congr fun members => and_congr_right ?_
  rintro rfl
  have typed : (∀ field ∈ fields.toList, ∃ member, Json.member? members field.1 = some member ∧
      checkWithin types (Json.object members).depth field.2 member ("$" ++ "." ++ field.1) =
        .ok ()) ↔ ∀ field ∈ fields.toList, HasField types members field :=
    forall₂_congr fun field inside => exists_congr fun member => and_congr_right fun _ =>
      checkWithin_eq_ok_iff_of_isScalar (scalars field inside)
  rw [typed, and_comm]
  refine and_congr_right fun has => ⟨HasExactly.only, fun only => ⟨fun key inside => ?_, only⟩⟩
  obtain ⟨field, held, rfl⟩ := List.mem_map.mp inside
  obtain ⟨member, found, -⟩ := has field held
  exact ⟨member, found⟩

/-- The first field that is present but of another type is the fault of a struct of scalars. -/
theorem validate_struct_eq_error (known : types.find? name = some decl)
    (isStruct : decl.kind = .struct ⟨fields, encoding⟩)
    (scalars : ∀ field ∈ fields.toList, field.2.IsScalar)
    {before after : List (String × TypeRef)} {field : String × TypeRef}
    (split : fields.toList = before ++ field :: after)
    (has : ∀ earlier ∈ before, HasField types members earlier)
    {member : Json} (found : Json.member? members field.1 = some member)
    (refused : validate types field.2 member ≠ .ok ()) :
    validate types (.declared name) (.object members) =
      .error (.shape ("$." ++ field.1) ("`" ++ field.2.name ++ "`")) := by
  rw [split, List.forall_mem_append, List.forall_mem_cons] at scalars
  obtain ⟨before_scalar, scalar, -⟩ := scalars
  rw [validate_struct known isStruct, checkFields, split, Json.depth]
  refine bind_eq_error_iff.mpr (.inl (checkMembers_eq_error ?_ found
    (checkWithin_eq_error_of_isScalar scalar refused)))
  refine checkMembers_eq_ok_iff.mpr fun earlier inside => ?_
  obtain ⟨value, held, typed⟩ := has earlier inside
  exact ⟨value, held, (checkWithin_eq_ok_iff_of_isScalar (before_scalar earlier inside)).mpr typed⟩

end Struct

end Structured

namespace Fixed

open Structured (HasField validate)

variable {order : ByteOrder} {layout : Layout} {typeName : String} {fields : Fields}
  {types : DeclSet} {members : List (String × Json)}

/-- A slot can be written exactly if its field is a member of the right type. -/
theorem exists_slotPattern_iff {slot : FieldSlot} (types : DeclSet)
    (scalar : slot.primitive.width? = some slot.width) :
    (∃ pattern, (Json.member? members slot.name).bind (pattern? slot.primitive) = some pattern) ↔
      HasField types members (slot.name, .primitive slot.primitive) := by
  simp only [Option.bind_eq_some_iff]
  rw [exists_comm]
  refine exists_congr fun member => exists_and_left.trans (and_congr_right fun _ => ?_)
  rw [exists_pattern?_iff scalar, Structured.validate_primitive_eq_ok_iff]

/-- Packing fails with a slot that cannot be written behind slots that can be. -/
theorem packSlots_eq_error {before after : List FieldSlot} {slot : FieldSlot}
    (patterned : ∀ earlier ∈ before, ∃ pattern,
      (Json.member? members earlier.name).bind (pattern? earlier.primitive) = some pattern)
    (refused : (Json.member? members slot.name).bind (pattern? slot.primitive) = none)
    (buffer : List UInt8) :
    packSlots order members (before ++ slot :: after) buffer = .error (mismatch slot) := by
  induction before generalizing buffer with
  | nil => rw [List.nil_append, packSlots, refused]
  | cons first before induction =>
      obtain ⟨⟨pattern, found⟩, patterned⟩ := List.forall_mem_cons.mp patterned
      rw [List.cons_append, packSlots, found]
      exact induction patterned _

/-- An object is packed exactly if every field is a member of the right type. -/
theorem exists_pack_iff (placed : Layout.ofFields typeName fields = .ok layout) (order : ByteOrder)
    (types : DeclSet) {value : Json} :
    (∃ bytes, pack layout order value = .ok bytes) ↔
      ∃ members, value = .object members ∧
        ∀ field ∈ fields.toList, HasField types members field := by
  have isPlaced := Layout.isPlaced_of_ofFields placed
  cases value with
  | object members =>
      simp only [Json.object.injEq, exists_eq_left']
      rw [← (Layout.ofFields_eq_ok placed).1, List.forall_mem_map]
      constructor
      · rintro ⟨bytes, packed⟩ slot inside
        obtain ⟨pattern, found, -⟩ := (fills_of_pack isPlaced packed).written slot inside
        exact (exists_slotPattern_iff types (isPlaced.scalar slot inside)).mp ⟨pattern, found⟩
      · intro has
        exact exists_packSlots order (fun slot inside =>
          (exists_slotPattern_iff types (isPlaced.scalar slot inside)).mpr (has slot inside)) _
  | _ => simp [pack]

/-- The first field that is present but of another type is the fault of a packed object. -/
theorem pack_eq_error (placed : Layout.ofFields typeName fields = .ok layout) (order : ByteOrder)
    {before after : List (String × TypeRef)} {field : String × TypeRef}
    (split : fields.toList = before ++ field :: after)
    (has : ∀ earlier ∈ before, HasField types members earlier)
    {member : Json} (found : Json.member? members field.1 = some member)
    (refused : validate types field.2 member ≠ .ok ()) :
    pack layout order (.object members) =
      .error (.shape ("$." ++ field.1) ("`" ++ field.2.name ++ "`")) := by
  have scalar := (Layout.isPlaced_of_ofFields placed).scalar
  have slots_map := (Layout.ofFields_eq_ok placed).1.trans split
  obtain ⟨earlier, rest, slots_eq, rfl, rest_map⟩ := List.map_eq_append_iff.mp slots_map
  obtain ⟨slot, later, rfl, rfl, -⟩ := List.map_eq_cons_iff.mp rest_map
  rw [slots_eq, List.forall_mem_append, List.forall_mem_cons] at scalar
  obtain ⟨earlier_scalar, slot_scalar, -⟩ := scalar
  rw [List.forall_mem_map] at has
  rw [pack, slots_eq]
  refine packSlots_eq_error (fun slot inside =>
    (exists_slotPattern_iff types (earlier_scalar slot inside)).mpr (has slot inside)) ?_ _
  rw [Option.eq_none_iff_forall_ne_some]
  intro pattern patterned
  obtain ⟨other, held, typed⟩ := (exists_slotPattern_iff types slot_scalar).mp ⟨pattern, patterned⟩
  cases found.symm.trans held
  exact refused typed

/-- Packing and structured text accept the same values of the fields of a struct: packing takes an
object that has all of them, and structured text the same if nothing else is there.  Both refuse the
first field that is there with a value of another type, in the same words. -/
theorem codecs_accept_same_values (placed : Layout.ofFields typeName fields = .ok layout)
    (order : ByteOrder) (types : DeclSet) :
    (∀ value, (∃ bytes, pack layout order value = .ok bytes) ↔
        ∃ members, value = .object members ∧
          ∀ field ∈ fields.toList, HasField types members field) ∧
      ∀ name decl encoding, types.find? name = some decl →
        decl.kind = .struct ⟨fields, encoding⟩ →
        (∀ value, validate types (.declared name) value = .ok () ↔
          (∃ bytes, pack layout order value = .ok bytes) ∧
            ∀ members, value = .object members → ∀ member ∈ members, member.1 ∈ fields.names) ∧
        ∀ members before field after member, fields.toList = before ++ field :: after →
          (∀ earlier ∈ before, HasField types members earlier) →
          Json.member? members field.1 = some member → validate types field.2 member ≠ .ok () →
          ∃ fault, fault = .shape ("$." ++ field.1) ("`" ++ field.2.name ++ "`") ∧
            pack layout order (.object members) = .error fault ∧
            validate types (.declared name) (.object members) = .error fault := by
  have scalars := (Layout.exists_ofFields_iff typeName).mp ⟨layout, placed⟩
  refine ⟨fun value => exists_pack_iff placed order types, fun name decl encoding known isStruct =>
    ⟨fun value => ?_, fun members before field after member split has found refused =>
      ⟨_, rfl, pack_eq_error placed order split has found refused,
        Structured.validate_struct_eq_error known isStruct scalars split has found refused⟩⟩⟩
  rw [Structured.validate_struct_eq_ok_iff known isStruct scalars,
    exists_pack_iff placed order types]
  constructor
  · rintro ⟨members, rfl, has, only⟩
    refine ⟨⟨members, rfl, has⟩, ?_⟩
    rintro _ ⟨⟩
    exact only
  · rintro ⟨⟨members, rfl, has⟩, only⟩
    exact ⟨members, rfl, has, only members rfl⟩

/-- The declaration of a struct with three fields, which has the layout `readingLayout`. -/
def readingTypes : DeclSet :=
  ⟨#[⟨"Reading", .struct ⟨readingFields, .structured⟩, none, none⟩]⟩

/-- Members for these fields, the last of them above the greatest signed integer of two bytes. -/
def overshootMembers : List (String × Json) :=
  [("shift", .number (.integer 32768 (by decide) (by decide))),
    ("ratio", .number (.integer 1 (by decide) (by decide))),
    ("flag", .number (.integer 255 (by decide) (by decide)))]

/-- An object with one member too many is packed, but it is no structured text.  An integer just
above the greatest of its type is refused by both in the same words. -/
theorem codecs_accept_same_values_reading :
    Layout.ofFields "Reading" readingFields = .ok readingLayout ∧
      (∃ bytes, pack readingLayout .big (.object readingMembers) = .ok bytes) ∧
      validate readingTypes (.declared "Reading") (.object readingMembers) ≠ .ok () ∧
      ∃ fault, fault = .shape "$.shift" "`i16`" ∧
        pack readingLayout .big (.object overshootMembers) = .error fault ∧
        validate readingTypes (.declared "Reading") (.object overshootMembers) = .error fault := by
  have placed : Layout.ofFields "Reading" readingFields = .ok readingLayout := by decide
  have known : readingTypes.find? "Reading" =
      some ⟨"Reading", .struct ⟨readingFields, .structured⟩, none, none⟩ := by decide
  obtain ⟨accepts, agree⟩ := codecs_accept_same_values placed .big readingTypes
  obtain ⟨validates, fails⟩ := agree "Reading" _ _ known rfl
  have has : ∀ field ∈ readingFields.toList, HasField readingTypes readingMembers field :=
    List.forall_mem_cons.mpr ⟨⟨_, rfl, rfl⟩, List.forall_mem_cons.mpr ⟨⟨_, rfl, rfl⟩,
      List.forall_mem_singleton.mpr ⟨_, rfl, rfl⟩⟩⟩
  have earlier : ∀ field ∈ [("flag", TypeRef.primitive .u8), ("ratio", .primitive .f64)],
      HasField readingTypes overshootMembers field :=
    List.forall_mem_cons.mpr ⟨⟨_, rfl, rfl⟩, List.forall_mem_singleton.mpr ⟨_, rfl, rfl⟩⟩
  refine ⟨placed, (accepts _).mpr ⟨readingMembers, rfl, has⟩, fun accepted => ?_,
    fails overshootMembers _ ("shift", .primitive .i16) [] _ rfl earlier rfl nofun⟩
  have spare : "spare" ∈ readingFields.names :=
    ((validates _).mp accepted).2 readingMembers rfl ("spare", .null) (by simp [readingMembers])
  exact absurd spare (by decide)

end Fixed
end ForeignBindings
