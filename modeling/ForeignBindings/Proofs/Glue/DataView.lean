import ForeignBindings.Glue.Declaration
import ForeignBindings.Proofs.Wire.PackedIntegers

/-!
# Views of bytes

What the accessors of a data view do with integers: the name of an accessor fixes the size and the
signedness of an element, an integer is written modulo the number of bit patterns, and the highest
byte comes first unless the access asks for the lowest.  Nothing is read or written beyond the end
of the view.  The emitted accesses to a packed integer write the bytes of its packed form and read
the number that these bytes stand for.
-/

namespace ForeignBindings

namespace IntegerType

/-- The integers that an accessor reads and writes, by what stands after `get` or `set`. -/
def ofAccessor? : String → Option IntegerType
  | "Int8" => some ⟨1, true⟩
  | "Uint8" => some ⟨1, false⟩
  | "Int16" => some ⟨2, true⟩
  | "Uint16" => some ⟨2, false⟩
  | "Int32" => some ⟨4, true⟩
  | "Uint32" => some ⟨4, false⟩
  | "BigInt64" => some ⟨8, true⟩
  | "BigUint64" => some ⟨8, false⟩
  | _ => none

/-- Bytes in the order of a view, from the lowest byte to the highest or the other way. -/
def arrange (littleEndian : Bool) (bytes : List UInt8) : List UInt8 :=
  if littleEndian then bytes else bytes.reverse

/-- The bytes that an integer is written as. -/
def rawBytes (type : IntegerType) (littleEndian : Bool) (value : Int) : List UInt8 :=
  arrange littleEndian <| (List.range type.width).map fun place =>
    UInt8.ofNat (value / 256 ^ place % 256).toNat

/-- The integer that bytes are read as. -/
def ofRawBytes (type : IntegerType) (littleEndian : Bool) (bytes : List UInt8) : Int :=
  let places := (arrange littleEndian bytes).zipIdx
  let pattern := (places.map fun place => place.1.toNat * 256 ^ place.2).sum
  if type.signed ∧ type.patterns ≤ 2 * pattern then (pattern : Int) - type.patterns else pattern

end IntegerType

/-- The bytes that a data view covers. -/
structure DataView where
  /-- The bytes in order. -/
  bytes : List UInt8
  deriving DecidableEq, Repr

namespace DataView

/-- The integer at an offset, unless it does not lie within the view. -/
def get? (view : DataView) (type : IntegerType) (offset : Nat) (littleEndian : Bool) : Option Int :=
  if offset + type.width ≤ view.bytes.length then
    some (type.ofRawBytes littleEndian ((view.bytes.drop offset).take type.width))
  else none

/-- The view with an integer written at an offset, unless there is no room for it. -/
def set? (view : DataView) (type : IntegerType) (offset : Nat) (value : Int)
    (littleEndian : Bool) : Option DataView :=
  if offset + type.width ≤ view.bytes.length then
    let written := type.rawBytes littleEndian value
    some ⟨view.bytes.mapIdx fun place byte =>
      if place < offset then byte else written[place - offset]?.getD byte⟩
  else none

end DataView

namespace IntegerType

variable {primitive : Primitive} {type : IntegerType}

theorem ofAccessor?_ofPrimitive
    (integer : primitive.integerType? = some type) :
    ofAccessor? (Glue.ViewMethod.ofPrimitive primitive).spelling = some type := by
  rw [← integer]
  cases primitive <;> first | rfl | cases integer

/-- What an integer leaves over a multiple of 256 is its lowest byte and what the rest leaves. -/
theorem emod_mul (value : Int) {count : Nat} (positive : 0 < count) :
    value % (256 * count : Nat) = value % 256 + 256 * (value / 256 % count) := by
  have byte := Int.mul_ediv_add_emod value 256
  have rest := Int.mul_ediv_add_emod (value / 256) count
  have left := Int.emod_nonneg (value / 256) (by omega : (count : Int) ≠ 0)
  have below := Int.emod_lt_of_pos (value / 256) (by omega : (0 : Int) < count)
  have total : value % 256 + 256 * (value / 256 % count) +
      (256 * count : Nat) * (value / 256 / count) = value := by
    rw [Int.natCast_mul, Int.mul_assoc]
    omega
  exact ((Int.ediv_emod_unique (by omega)).mpr ⟨total, by omega, by omega⟩).2

/-- The lowest bytes of an integer are those of what it leaves over a power of 256. -/
theorem lowBytes_emod (count : Nat) (value : Int) :
    ByteOrder.lowBytes count (value % (ByteOrder.patternCount count : Int)).toNat =
      (List.range count).map fun place => UInt8.ofNat (value / 256 ^ place % 256).toNat := by
  induction count generalizing value with
  | zero => rfl
  | succ count induction =>
      have positive : 0 < ByteOrder.patternCount count := Nat.pow_pos (by decide)
      have split := emod_mul value positive
      have left := Int.emod_nonneg (value / 256)
        (by omega : (ByteOrder.patternCount count : Int) ≠ 0)
      have lowest : (value % (256 * ByteOrder.patternCount count : Nat)).toNat % 2 ^ 8 =
          (value % 256).toNat := by omega
      have others : (value % (256 * ByteOrder.patternCount count : Nat)).toNat / 256 =
          (value / 256 % ByteOrder.patternCount count).toNat := by omega
      have shift (place : Nat) : value / 256 ^ (place + 1) = value / 256 / 256 ^ place := by
        rw [Int.pow_succ', Int.ediv_ediv_of_nonneg (by decide)]
      rw [ByteOrder.patternCount_succ, ByteOrder.lowBytes, others, induction,
        ← UInt8.ofNat_mod_size, lowest, List.range_succ_eq_map, List.map_cons, List.map_map]
      simp only [Int.pow_zero, Int.ediv_one, Function.comp_def, Nat.succ_eq_add_one, shift]

theorem sum_zipIdx (bytes : List UInt8) (first : Nat) :
    ((bytes.zipIdx first).map fun place => place.1.toNat * 256 ^ place.2).sum =
      256 ^ first * ByteOrder.ofLowBytes bytes := by
  induction bytes generalizing first with
  | nil => rfl
  | cons byte bytes induction =>
      rw [List.zipIdx_cons, List.map_cons, List.sum_cons, induction, ByteOrder.ofLowBytes,
        Nat.pow_succ]
      simp only [Nat.mul_add, Nat.mul_assoc, Nat.mul_comm byte.toNat]

/-- The byte order of an emitted access is that of the packed value; for a single byte, which has no
byte order, it does not matter. -/
theorem arrange_endianArgument (integer : primitive.integerType? = some type) (order : ByteOrder)
    {bytes : List UInt8} (length : bytes.length = type.width) :
    arrange ((Glue.endianArgument primitive order).getD false) bytes =
      arrange (order == .little) bytes := by
  rw [Glue.endianArgument, width?_eq integer]
  split
  case h_1 unsized => cases unsized
  case h_2 single =>
    obtain ⟨only, rfl⟩ := List.length_eq_one_iff.mp (length.trans (Option.some.inj single))
    simp [arrange]
  case h_3 => rfl

/-- An access writes the bytes of the packed integer. -/
theorem rawBytes_endianArgument (integer : primitive.integerType? = some type) (order : ByteOrder)
    (value : Int) :
    type.rawBytes ((Glue.endianArgument primitive order).getD false) value =
      order.bytes type.width (value % (type.patterns : Int)).toNat := by
  rw [rawBytes, arrange_endianArgument integer order (by simp), patterns_eq, ← lowBytes_emod]
  cases order <;> rfl

/-- An access reads the number that the bytes of a packed integer stand for. -/
theorem ofRawBytes_endianArgument (integer : primitive.integerType? = some type)
    (order : ByteOrder) {bytes : List UInt8} (length : bytes.length = type.width) :
    type.ofRawBytes ((Glue.endianArgument primitive order).getD false) bytes =
      type.ofPattern (order.number bytes) := by
  have arranged : ByteOrder.ofLowBytes (arrange (order == .little) bytes) = order.number bytes := by
    cases order <;> rfl
  have small := number_lt length order
  -- The number of patterns is even, so both ways to tell negative numbers cut it in the middle.
  obtain ⟨half, even⟩ : ∃ half, type.patterns = 2 * half := by
    have positive := Primitive.width?_pos (width?_eq integer)
    exact ⟨2 ^ (8 * type.width - 1), by rw [patterns, ← Nat.pow_succ', Nat.succ_eq_add_one,
      Nat.sub_add_cancel (by omega)]⟩
  have pattern : (order.number bytes : Int) % type.patterns = order.number bytes :=
    Int.emod_eq_of_lt (by omega) (by omega)
  rw [ofRawBytes, ofPattern, arrange_endianArgument integer order length, sum_zipIdx, arranged,
    Nat.pow_zero, Nat.one_mul]
  cases type.signed with
  | false => simp
  | true =>
      simp only [true_and, if_true, Int.bmod_def, pattern]
      split
      · rw [if_neg (by omega)]
      · rw [if_pos (by omega)]

end IntegerType

namespace DataView

variable {primitive : Primitive} {type : IntegerType} {offset : Nat}

theorem set?_eq_overwrite {view : DataView} (fits : offset + type.width ≤ view.bytes.length)
    (value : Int) (littleEndian : Bool) :
    view.set? type offset value littleEndian =
      some ⟨Fixed.overwrite view.bytes offset (type.rawBytes littleEndian value)⟩ := by
  have length : (type.rawBytes littleEndian value).length = type.width := by
    cases littleEndian <;> simp [IntegerType.rawBytes, IntegerType.arrange]
  rw [set?, if_pos fits, Option.some.injEq, DataView.mk.injEq, Fixed.overwrite]
  refine List.ext_getElem? fun place => ?_
  rw [List.getElem?_mapIdx, List.append_assoc, List.getElem?_append, List.getElem?_append,
    List.length_take_of_le (by omega), length, List.getElem?_take, List.getElem?_drop]
  split
  case isTrue before => cases view.bytes[place]? <;> simp
  case isFalse behind =>
    split
    case isTrue inside =>
      have known : place < view.bytes.length := by omega
      rw [List.getElem?_eq_getElem known, Option.map_some, List.getElem?_eq_getElem (by omega),
        Option.getD_some]
    case isFalse outside =>
      have absent : (type.rawBytes littleEndian value)[place - offset]? = none :=
        List.getElem?_eq_none (by omega)
      have shifted : offset + type.width + (place - offset - type.width) = place := by omega
      rw [shifted]
      cases view.bytes[place]? <;> simp [absent]

/-- An emitted access writes a packed integer over its bytes. -/
theorem set?_endianArgument (integer : primitive.integerType? = some type) (order : ByteOrder)
    {bytes : List UInt8} (fits : offset + type.width ≤ bytes.length) (value : Int) :
    set? ⟨bytes⟩ type offset value ((Glue.endianArgument primitive order).getD false) =
      some ⟨Fixed.overwrite bytes offset
        (order.bytes type.width (value % (type.patterns : Int)).toNat)⟩ := by
  rw [set?_eq_overwrite fits, IntegerType.rawBytes_endianArgument integer]

/-- An emitted access reads the integer that the bytes of its slot stand for. -/
theorem get?_endianArgument (integer : primitive.integerType? = some type) (order : ByteOrder)
    {bytes : List UInt8} (fits : offset + type.width ≤ bytes.length) :
    get? ⟨bytes⟩ type offset ((Glue.endianArgument primitive order).getD false) =
      some (type.ofPattern (order.number (Fixed.slice bytes offset type.width))) := by
  have length : ((bytes.drop offset).take type.width).length = type.width :=
    Fixed.length_slice fits
  rw [get?, if_pos fits, IntegerType.ofRawBytes_endianArgument integer order length, Fixed.slice]

end DataView
end ForeignBindings
