import ForeignBindings.Proofs.Json.Normal
import ForeignBindings.Proofs.Wire.PackedNumbers

/-!
# Packed bytes

Packing writes the fields of an object to their slots, one behind the other, and leaves zero between
them; unpacking reads each field from its slot.  So what is packed without rounding is read again
from the packed bytes, and what is read from any bytes is packed as these bytes, but for their
padding.
-/

namespace ForeignBindings

/-- Whether a byte belongs to a slot. -/
def FieldSlot.Covers (slot : FieldSlot) (index : Nat) : Prop :=
  slot.offset ≤ index ∧ index < slot.offset + slot.width

instance (slot : FieldSlot) (index : Nat) : Decidable (slot.Covers index) :=
  inferInstanceAs (Decidable (_ ∧ _))

namespace Layout

/-- Whether a byte of a packed value belongs to no field. -/
def IsPadding (layout : Layout) (index : Nat) : Prop :=
  index < layout.size ∧ ∀ slot ∈ layout.slots, ¬ slot.Covers index

instance (layout : Layout) (index : Nat) : Decidable (layout.IsPadding index) :=
  inferInstanceAs (Decidable (_ ∧ _))

/-- The bytes of a packed value at the start of a buffer, with zero in every byte of padding. -/
def clearPadding (layout : Layout) (bytes : List UInt8) : List UInt8 :=
  (bytes.take layout.size).mapIdx fun index byte => if layout.IsPadding index then 0 else byte

theorem length_clearPadding {layout : Layout} {bytes : List UInt8}
    (long : layout.size ≤ bytes.length) : (layout.clearPadding bytes).length = layout.size := by
  rw [clearPadding, List.length_mapIdx, List.length_take_of_le long]

theorem getElem?_clearPadding {layout : Layout} {bytes : List UInt8} {index : Nat}
    (long : layout.size ≤ bytes.length) (small : index < layout.size) :
    (layout.clearPadding bytes)[index]? =
      if layout.IsPadding index then some 0 else bytes[index]? := by
  rw [clearPadding, List.getElem?_mapIdx, List.getElem?_take_of_lt small,
    List.getElem?_eq_getElem (Nat.lt_of_lt_of_le small long), Option.map_some]
  split <;> rfl

end Layout

namespace Fixed

open Checks

variable {order : ByteOrder} {layout : Layout} {slots : List FieldSlot}
  {members : List (String × Json)} {buffer bytes : List UInt8}

/-- The bit pattern that a slot holds. -/
def patternAt (order : ByteOrder) (bytes : List UInt8) (slot : FieldSlot) : Nat :=
  order.number (slice bytes slot.offset slot.width)

theorem patternAt_lt {slot : FieldSlot} (fits : slot.offset + slot.width ≤ bytes.length)
    (order : ByteOrder) : patternAt order bytes slot < ByteOrder.patternCount slot.width := by
  rw [patternAt]
  conv => rhs; rw [← length_slice fits]
  exact order.number_lt _

/-- The bytes of a slot are those of the pattern that it holds. -/
theorem bytes_patternAt {slot : FieldSlot} (fits : slot.offset + slot.width ≤ bytes.length)
    (order : ByteOrder) :
    order.bytes slot.width (patternAt order bytes slot) = slice bytes slot.offset slot.width := by
  have whole := order.bytes_number (slice bytes slot.offset slot.width)
  rwa [length_slice fits] at whole

/-- Buffers with the same bytes in a slot have the same byte wherever the slot covers one. -/
theorem getElem?_eq_of_covers {slot : FieldSlot} {index : Nat} (covers : slot.Covers index)
    (same : slice buffer slot.offset slot.width = slice bytes slot.offset slot.width) :
    buffer[index]? = bytes[index]? := by
  obtain ⟨place, rfl⟩ := Nat.exists_eq_add_of_le covers.1
  have small : place < slot.width := Nat.lt_of_add_lt_add_left covers.2
  rw [← getElem?_slice small, ← getElem?_slice small, same]

/-- Whether bytes are a buffer with the fields of an object in their slots. -/
structure Fills (order : ByteOrder) (members : List (String × Json)) (slots : List FieldSlot)
    (buffer bytes : List UInt8) : Prop where
  /-- The buffer keeps its length. -/
  length : bytes.length = buffer.length
  /-- Every slot holds the pattern of its field. -/
  written : ∀ slot ∈ slots, ∃ pattern,
    (Json.member? members slot.name).bind (pattern? slot.primitive) = some pattern ∧
      slice bytes slot.offset slot.width = order.bytes slot.width pattern
  /-- Every other byte stays. -/
  kept : ∀ index, (∀ slot ∈ slots, ¬ slot.Covers index) → bytes[index]? = buffer[index]?

/-- An object is packed if every field has a pattern. -/
theorem exists_packSlots (order : ByteOrder) (patterned : ∀ slot ∈ slots, ∃ pattern,
    (Json.member? members slot.name).bind (pattern? slot.primitive) = some pattern)
    (buffer : List UInt8) : ∃ bytes, packSlots order members slots buffer = .ok bytes := by
  induction slots generalizing buffer with
  | nil => exact ⟨buffer, rfl⟩
  | cons slot slots induction =>
      obtain ⟨⟨pattern, found⟩, patterned⟩ := List.forall_mem_cons.mp patterned
      rw [packSlots, found]
      exact induction patterned _

/-- Packing writes every field to its slot: no slot is written over by the slots behind it. -/
theorem fills_of_packSlots
    (inside : ∀ slot ∈ slots, slot.offset + slot.width ≤ buffer.length)
    (ordered : slots.Pairwise fun slot other => slot.offset + slot.width ≤ other.offset)
    (packed : packSlots order members slots buffer = .ok bytes) :
    Fills order members slots buffer bytes := by
  induction slots generalizing buffer with
  | nil =>
      cases packed
      exact ⟨rfl, nofun, fun _ _ => rfl⟩
  | cons slot slots induction =>
      obtain ⟨fits, inside⟩ := List.forall_mem_cons.mp inside
      obtain ⟨before, ordered⟩ := List.pairwise_cons.mp ordered
      rw [packSlots] at packed
      split at packed
      case h_1 => cases packed
      case h_2 pattern found =>
        have count := order.length_bytes slot.width pattern
        rw [← count] at fits
        have length := length_overwrite fits
        have written := slice_overwrite fits
        rw [count] at written
        obtain ⟨kept_length, others, kept⟩ := induction (length ▸ inside) ordered packed
        refine ⟨kept_length.trans length, List.forall_mem_cons.mpr ⟨⟨pattern, found, ?_⟩, others⟩,
          fun index uncovered => ?_⟩
        · -- The slots behind this one begin where it has ended, so its bytes stay.
          rw [← written]
          refine slice_congr fun index _ small => kept index fun other known covers => ?_
          exact Nat.not_lt.mpr ((before other known).trans covers.1) small
        · obtain ⟨outside, uncovered⟩ := List.forall_mem_cons.mp uncovered
          rw [kept index uncovered, getElem?_overwrite fits]
          rw [FieldSlot.Covers] at outside
          omega

/-- The packed bytes of an object hold its fields in their slots and zero everywhere else. -/
theorem fills_of_pack (placed : layout.IsPlaced)
    (packed : pack layout order (.object members) = .ok bytes) :
    Fills order members layout.slots (List.replicate layout.size 0) bytes :=
  fills_of_packSlots (by simpa using placed.inside) placed.ordered packed

theorem Fills.length_eq
    (fills : Fills order members layout.slots (List.replicate layout.size 0) bytes) :
    bytes.length = layout.size := by
  rw [fills.length, List.length_replicate]

theorem Fills.eq_zero
    (fills : Fills order members layout.slots (List.replicate layout.size 0) bytes)
    {index : Nat} (padding : layout.IsPadding index) : bytes[index]? = some 0 := by
  rw [fills.kept index padding.2, List.getElem?_replicate_of_lt padding.1]

/-- Whether a slot holds an infinity or a NaN. -/
def holdsNonFinite (order : ByteOrder) (bytes : List UInt8) (slot : FieldSlot) : Bool :=
  slot.primitive.floatFormat?.any fun format => !format.isFinite (patternAt order bytes slot)

theorem holdsNonFinite_iff {slot : FieldSlot} :
    holdsNonFinite order bytes slot ↔ ∃ format, slot.primitive.floatFormat? = some format ∧
      ¬ format.isFinite (patternAt order bytes slot) := by
  simp [holdsNonFinite, Option.any_eq_true]

theorem unpackSlot_eq_ok_iff {slot : FieldSlot} {member : String × Json} :
    unpackSlot order bytes slot = .ok member ↔
      ∃ number, number? slot.primitive (patternAt order bytes slot) = some number ∧
        (slot.name, .number number) = member := by
  rw [unpackSlot, patternAt]
  split <;> simp_all

/-- What unpacking reads is an object with the names of the slots and with the numbers that they
hold. -/
theorem exists_of_unpack (distinct : (layout.slots.map FieldSlot.name).Nodup) {value : Json}
    (read : unpack layout order bytes = .ok value) :
    layout.size ≤ bytes.length ∧ ∃ members, value = .object members ∧
      (members.map Prod.fst).Perm (layout.slots.map FieldSlot.name) ∧
      ∀ slot ∈ layout.slots, ∃ number,
        number? slot.primitive (patternAt order bytes slot) = some number ∧
        Json.member? members slot.name = some (.number number) := by
  rw [unpack] at read
  split at read
  case isTrue => cases read
  case isFalse long =>
    obtain ⟨found, each, finished⟩ := bind_eq_ok_iff.mp read
    cases finished
    have names : found.map Prod.fst = layout.slots.map FieldSlot.name :=
      map_eq_of_mapM_eq_ok (fun slot _ member stepped => by
        obtain ⟨number, -, rfl⟩ := unpackSlot_eq_ok_iff.mp stepped
        rfl) each
    have numbers : ∀ member ∈ found, member.2.normalize = member.2 := fun member inside => by
      obtain ⟨slot, -, stepped⟩ := exists_source_of_mapM_eq_ok each inside
      obtain ⟨number, -, rfl⟩ := unpackSlot_eq_ok_iff.mp stepped
      rfl
    have reordered := Json.normalizeMembers_perm (names ▸ distinct) numbers
    have reordered_names := reordered.map Prod.fst
    refine ⟨Nat.not_lt.mp long, _, rfl, names ▸ reordered_names, fun slot inside => ?_⟩
    obtain ⟨member, found_inside, stepped⟩ := exists_mem_of_mapM_eq_ok each inside
    obtain ⟨number, known, rfl⟩ := unpackSlot_eq_ok_iff.mp stepped
    exact ⟨number, known, Json.member?_eq_some_of_mem
      (reordered_names.nodup_iff.mpr (names ▸ distinct)) (reordered.mem_iff.mpr found_inside)⟩

/-- A value is unpacked if every slot holds a number. -/
theorem exists_unpack (long : layout.size ≤ bytes.length) (numbers : ∀ slot ∈ layout.slots,
    ∃ number, number? slot.primitive (patternAt order bytes slot) = some number) :
    ∃ value, unpack layout order bytes = .ok value := by
  have each : ∀ slot ∈ layout.slots, ∃ member, unpackSlot order bytes slot = .ok member :=
    fun slot inside => by
      obtain ⟨number, known⟩ := numbers slot inside
      exact ⟨_, unpackSlot_eq_ok_iff.mpr ⟨number, known, rfl⟩⟩
  obtain ⟨found, read⟩ := exists_mapM_eq_ok each
  refine ⟨.object (Json.normalizeMembers found), ?_⟩
  rw [unpack, if_neg (Nat.not_lt.mpr long), read]
  rfl

/-! ## Reading what was packed -/

/-- A slot that was packed without rounding holds the number that was packed, whatever follows the
packed bytes. -/
theorem Fills.exists_number {slot : FieldSlot} (fills : Fills order members slots buffer bytes)
    (inside : slot ∈ slots) (fits : slot.offset + slot.width ≤ bytes.length)
    (scalar : slot.primitive.width? = some slot.width)
    (exact : (∃ type, slot.primitive.integerType? = some type) ∨ slot.primitive = .f64 ∧
      ∀ value, Json.member? members slot.name = some value → value.IsFloat)
    (tail : List UInt8) :
    ∃ number, Json.member? members slot.name = some (.number number) ∧
      number? slot.primitive (patternAt order (bytes ++ tail) slot) = some number := by
  obtain ⟨pattern, found, written⟩ := fills.written slot inside
  obtain ⟨value, held, patterned⟩ := Option.bind_eq_some_iff.mp found
  obtain ⟨small, number, rfl, read⟩ := number?_of_pattern? scalar
    (exact.imp_right (And.imp_right fun floats => floats value held)) patterned
  refine ⟨number, held, ?_⟩
  rw [patternAt, slice_append fits, written, ByteOrder.number_bytes, Nat.mod_eq_of_lt small, read]

/-- Packed integers and floating-point numbers of eight bytes are read again from the packed bytes,
whatever follows them, and nothing else is: the padding is zero, and other members are dropped. -/
theorem unpack_pack {typeName : String} {fields : Fields}
    (placed : Layout.ofFields typeName fields = .ok layout)
    (exact : ∀ field ∈ fields.toList, field.2.IsInteger ∨ field.2 = .primitive .f64)
    (floats : ∀ field ∈ fields.toList, field.2 = .primitive .f64 →
      ∀ value, Json.member? members field.1 = some value → value.IsFloat)
    (packed : pack layout order (.object members) = .ok bytes) :
    bytes.length = layout.size ∧
      (∀ index, layout.IsPadding index → bytes[index]? = some 0) ∧
      ∀ tail, ∃ read, unpack layout order (bytes ++ tail) = .ok (.object read) ∧
        (read.map Prod.fst).Perm fields.names ∧
        ∀ name ∈ fields.names, Json.member? read name = Json.member? members name := by
  have isPlaced := Layout.isPlaced_of_ofFields placed
  have fills := fills_of_pack isPlaced packed
  have length := fills.length_eq
  refine ⟨length, fun _ padding => fills.eq_zero padding, fun tail => ?_⟩
  have numbers : ∀ slot ∈ layout.slots, ∃ number,
      Json.member? members slot.name = some (.number number) ∧
        number? slot.primitive (patternAt order (bytes ++ tail) slot) = some number := by
    refine fun slot inside => fills.exists_number inside (length ▸ isPlaced.inside slot inside)
      (isPlaced.scalar slot inside) ?_ tail
    have field := Layout.mem_of_ofFields placed inside
    exact (exact _ field).imp TypeRef.IsInteger.exists_integerType? fun isFloat =>
      ⟨TypeRef.primitive.inj isFloat, floats _ field isFloat⟩
  have long : layout.size ≤ (bytes ++ tail).length := by
    rw [List.length_append, length]
    exact Nat.le_add_right ..
  obtain ⟨value, unpacked⟩ := exists_unpack long fun slot inside =>
    (numbers slot inside).imp fun _ => And.right
  obtain ⟨-, read, rfl, names, each⟩ := exists_of_unpack isPlaced.distinct unpacked
  rw [Layout.names_of_ofFields placed] at names
  refine ⟨read, unpacked, names, fun name known => ?_⟩
  rw [← Layout.names_of_ofFields placed] at known
  obtain ⟨slot, inside, rfl⟩ := List.mem_map.mp known
  obtain ⟨number, held, isNumber⟩ := numbers slot inside
  obtain ⟨other, isOther, found⟩ := each slot inside
  cases isNumber.symm.trans isOther
  rw [held, found]

/-- A byte, a floating-point number behind seven bytes of padding and a signed integer. -/
def readingFields : Fields :=
  .ofList [("flag", .primitive .u8), ("ratio", .primitive .f64), ("shift", .primitive .i16)]

/-- The layout of these fields. -/
def readingLayout : Layout :=
  ⟨[⟨"flag", .u8, 0⟩, ⟨"ratio", .f64, 8⟩, ⟨"shift", .i16, 16⟩], 24, 8⟩

/-- Members for these fields and another one. -/
def readingMembers : List (String × Json) :=
  [("ratio", .number (.float 0xBFF8000000000000 (by decide))), ("spare", .null),
    ("shift", .number (.integer (-300) (by decide) (by decide))),
    ("flag", .number (.integer 200 (by decide) (by decide)))]

/-- A negative fraction and a negative integer, the highest byte first, are read again. -/
theorem unpack_pack_reading :
    Layout.ofFields "Reading" readingFields = .ok readingLayout ∧
      pack readingLayout .big (.object readingMembers) =
        .ok [200, 0, 0, 0, 0, 0, 0, 0, 0xBF, 0xF8, 0, 0, 0, 0, 0, 0, 0xFE, 0xD4, 0, 0, 0, 0, 0, 0] ∧
      ∃ read, unpack readingLayout .big
          ([200, 0, 0, 0, 0, 0, 0, 0, 0xBF, 0xF8, 0, 0, 0, 0, 0, 0, 0xFE, 0xD4, 0, 0, 0, 0, 0, 0] ++
            [1]) = .ok (.object read) ∧
        (read.map Prod.fst).Perm ["flag", "ratio", "shift"] ∧
        Json.member? read "ratio" = some (.number (.float 0xBFF8000000000000 (by decide))) := by
  have placed : Layout.ofFields "Reading" readingFields = .ok readingLayout := by decide
  have packed : pack readingLayout .big (.object readingMembers) =
      .ok [200, 0, 0, 0, 0, 0, 0, 0, 0xBF, 0xF8, 0, 0, 0, 0, 0, 0, 0xFE, 0xD4, 0, 0, 0, 0, 0, 0] :=
    rfl
  have exact : ∀ field ∈ readingFields.toList, field.2.IsInteger ∨ field.2 = .primitive .f64 :=
    List.forall_mem_cons.mpr ⟨.inl ⟨.u8, ⟨1, false⟩, rfl, rfl⟩, List.forall_mem_cons.mpr ⟨.inr rfl,
      List.forall_mem_singleton.mpr (.inl ⟨.i16, ⟨2, true⟩, rfl, rfl⟩)⟩⟩
  have floats : ∀ field ∈ readingFields.toList, field.2 = .primitive .f64 →
      ∀ value, Json.member? readingMembers field.1 = some value → value.IsFloat :=
    List.forall_mem_cons.mpr ⟨nofun, List.forall_mem_cons.mpr ⟨fun _ value held =>
      ⟨_, _, (Option.some.inj held).symm, by decide⟩, List.forall_mem_singleton.mpr nofun⟩⟩
  obtain ⟨-, -, reads⟩ := unpack_pack placed exact floats packed
  obtain ⟨read, unpacked, names, same⟩ := reads [1]
  exact ⟨placed, packed, read, unpacked, names, same "ratio" (by decide)⟩

/-- A slot that holds an infinity or a NaN is refused, and every other slot holds a number. -/
theorem reports_unpackSlot {slot : FieldSlot} (scalar : slot.primitive.width? = some slot.width)
    (fits : slot.offset + slot.width ≤ bytes.length) :
    Reports (if holdsNonFinite order bytes slot then [.nonFinite (fieldPath slot)] else [])
      (unpackSlot order bytes slot) := by
  rw [unpackSlot, ← patternAt]
  rcases number?_spec scalar (patternAt_lt fits order) with
    ⟨number, read, -, finite⟩ | ⟨none, format, float, notFinite⟩
  · have holds : ¬ holdsNonFinite order bytes slot := by
      rw [holdsNonFinite_iff]
      rintro ⟨format, float, notFinite⟩
      exact notFinite (finite format float)
    rw [read, if_neg holds]
    exact .ok _
  · have unread : unreadable slot = .nonFinite (fieldPath slot) := by
      rw [unreadable, scalar, Option.isSome_some, if_pos rfl]
    rw [none, if_pos (holdsNonFinite_iff.mpr ⟨format, float, notFinite⟩), unread]
    exact .error _

/-- Unpacking bytes that are long enough fails with the first slot that holds an infinity or a
NaN. -/
theorem reports_unpack (placed : layout.IsPlaced) (long : layout.size ≤ bytes.length) :
    Reports (layout.slots.flatMap fun slot =>
        if holdsNonFinite order bytes slot then [.nonFinite (fieldPath slot)] else [])
      (unpack layout order bytes) := by
  rw [unpack, if_neg (Nat.not_lt.mpr long), ← List.append_nil (layout.slots.flatMap _)]
  exact (Reports.mapM fun slot inside => reports_unpackSlot (placed.scalar slot inside)
    ((placed.inside slot inside).trans long)).bind fun _ _ => .ok _

/-- The first of the faults of slots is that of the first slot with one. -/
theorem head?_flatMap_ite {refused : FieldSlot → Bool} {fault : FieldSlot → WireError}
    (slots : List FieldSlot) :
    (slots.flatMap fun slot => if refused slot then [fault slot] else []).head? =
      (slots.find? refused).map fault := by
  induction slots with
  | nil => rfl
  | cons slot slots induction =>
      rw [List.flatMap_cons, List.find?_cons]
      cases refused slot with
      | false => simpa using induction
      | true => rfl

/-- What is read from bytes is packed as these bytes, with zero in every byte of padding. -/
theorem pack_of_unpack (placed : layout.IsPlaced) {value : Json}
    (read : unpack layout order bytes = .ok value) :
    pack layout order value = .ok (layout.clearPadding bytes) := by
  obtain ⟨long, members, rfl, -, each⟩ := exists_of_unpack placed.distinct read
  have fits : ∀ slot ∈ layout.slots, slot.offset + slot.width ≤ bytes.length :=
    fun slot inside => (placed.inside slot inside).trans long
  have patterned : ∀ slot ∈ layout.slots,
      (Json.member? members slot.name).bind (pattern? slot.primitive) =
        some (patternAt order bytes slot) := fun slot inside => by
    obtain ⟨number, known, found⟩ := each slot inside
    rcases number?_spec (placed.scalar slot inside) (patternAt_lt (fits slot inside) order) with
      ⟨same, isSame, packed, -⟩ | ⟨none, -⟩
    · cases known.symm.trans isSame
      rw [found, Option.bind_some, packed]
    · cases known.symm.trans none
  obtain ⟨packed, succeeded⟩ := exists_packSlots order
    (fun slot inside => ⟨_, patterned slot inside⟩) (List.replicate layout.size 0)
  have fills := fills_of_pack placed succeeded
  refine succeeded.trans (congrArg Except.ok (List.ext_getElem? fun index => ?_))
  rcases Nat.lt_or_ge index layout.size with small | large
  · rw [Layout.getElem?_clearPadding long small]
    split
    case isTrue padding => exact fills.eq_zero padding
    case isFalse notPadding =>
      obtain ⟨slot, inside, covers⟩ : ∃ slot ∈ layout.slots, slot.Covers index := by
        simpa [Layout.IsPadding, small] using notPadding
      obtain ⟨pattern, found, written⟩ := fills.written slot inside
      cases found.symm.trans (patterned slot inside)
      rw [bytes_patternAt (fits slot inside)] at written
      exact getElem?_eq_of_covers covers written
  · rw [List.getElem?_eq_none (fills.length_eq ▸ large),
      List.getElem?_eq_none (Layout.length_clearPadding long ▸ large)]

/-- Unpacking looks at no byte outside of the buffer.  It fails for bytes that are too few, and
otherwise exactly if a slot holds an infinity or a NaN, naming the first one; and what it reads is
packed as the bytes that were read, with zero in every byte of padding. -/
theorem unpack_total {typeName : String} {fields : Fields}
    (placed : Layout.ofFields typeName fields = .ok layout) (order : ByteOrder)
    (bytes : List UInt8) :
    (∀ expected actual, unpack layout order bytes = .error (.truncated expected actual) ↔
        bytes.length < layout.size ∧ expected = layout.size ∧ actual = bytes.length) ∧
      (layout.size ≤ bytes.length →
        (∀ slot ∈ layout.slots, slot.primitive.width? = some slot.width ∧
          slot.offset + slot.width ≤ bytes.length) ∧
        ∀ fault, unpack layout order bytes = .error fault ↔
          ∃ slot, layout.slots.find? (holdsNonFinite order bytes) = some slot ∧
            fault = .nonFinite ("$." ++ slot.name)) ∧
      ∀ value, unpack layout order bytes = .ok value →
        pack layout order value = .ok (layout.clearPadding bytes) := by
  have isPlaced := Layout.isPlaced_of_ofFields placed
  have failed (long : layout.size ≤ bytes.length) (fault : WireError) :
      unpack layout order bytes = .error fault ↔
        ∃ slot, layout.slots.find? (holdsNonFinite order bytes) = some slot ∧
          fault = .nonFinite ("$." ++ slot.name) := by
    rw [(reports_unpack isPlaced long).eq_error_iff, head?_flatMap_ite, Option.map_eq_some_iff]
    exact exists_congr fun slot => and_congr_right fun _ => eq_comm
  refine ⟨fun expected actual => ?_, fun long => ⟨fun slot inside => ?_, failed long⟩,
    fun value => pack_of_unpack isPlaced⟩
  · rcases Nat.lt_or_ge bytes.length layout.size with short | long
    · rw [unpack, if_pos short]
      simp [short, eq_comm]
    · rw [failed long]
      simp [Nat.not_lt.mpr long]
  · exact ⟨isPlaced.scalar slot inside, (isPlaced.inside slot inside).trans long⟩

/-- A byte and a floating-point number of four bytes. -/
def sampleFields : Fields :=
  .ofList [("tag", .primitive .u8), ("value", .primitive .f32)]

/-- The layout of these fields. -/
def sampleLayout : Layout :=
  ⟨[⟨"tag", .u8, 0⟩, ⟨"value", .f32, 4⟩], 8, 4⟩

/-- A NaN is refused, and the smallest fraction of four bytes is packed as it was read, without the
bytes in front of it. -/
theorem unpack_total_sample :
    Layout.ofFields "Sample" sampleFields = .ok sampleLayout ∧
      unpack sampleLayout .little [1, 9, 9, 9, 1, 0, 192, 127] =
        .error (.nonFinite "$.value") ∧
      ∃ value, unpack sampleLayout .little [1, 9, 9, 9, 1, 0, 0, 128, 5] = .ok value ∧
        pack sampleLayout .little value = .ok [1, 0, 0, 0, 1, 0, 0, 128] := by
  have placed : Layout.ofFields "Sample" sampleFields = .ok sampleLayout := by decide
  obtain ⟨-, fails, -⟩ := unpack_total placed .little [1, 9, 9, 9, 1, 0, 192, 127]
  obtain ⟨-, -, packs⟩ := unpack_total placed .little [1, 9, 9, 9, 1, 0, 0, 128, 5]
  exact ⟨placed, ((fails (by decide)).2 _).mpr ⟨⟨"value", .f32, 4⟩, by decide, rfl⟩, _, rfl,
    packs _ rfl⟩

end Fixed
end ForeignBindings
