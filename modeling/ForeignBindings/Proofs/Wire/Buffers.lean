import ForeignBindings.Wire.Fixed

/-!
# Parts of a buffer

What is written to a part of a buffer is read from this part, and every byte outside of it stays.
-/

namespace ForeignBindings
namespace Fixed

variable {buffer other bytes : List UInt8} {offset count index : Nat}

theorem length_slice (fits : offset + count ≤ bytes.length) :
    (slice bytes offset count).length = count := by
  rw [slice, List.length_take, List.length_drop]
  omega

theorem getElem?_slice (small : index < count) :
    (slice bytes offset count)[index]? = bytes[offset + index]? := by
  rw [slice, List.getElem?_take_of_lt small, List.getElem?_drop]

/-- Buffers with the same bytes in a part have the same part. -/
theorem slice_congr (same : ∀ index, offset ≤ index → index < offset + count →
    buffer[index]? = other[index]?) : slice buffer offset count = slice other offset count := by
  refine List.ext_getElem? fun index => ?_
  rcases Nat.lt_or_ge index count with small | large
  · rw [getElem?_slice small, getElem?_slice small]
    exact same _ (Nat.le_add_right ..) (Nat.add_lt_add_left small _)
  · rw [slice, slice, List.getElem?_take_eq_none large, List.getElem?_take_eq_none large]

/-- Bytes behind a buffer do not change its parts. -/
theorem slice_append (fits : offset + count ≤ bytes.length) (tail : List UInt8) :
    slice (bytes ++ tail) offset count = slice bytes offset count :=
  slice_congr fun _ _ small => List.getElem?_append_left (Nat.lt_of_lt_of_le small fits)

theorem length_overwrite (fits : offset + bytes.length ≤ buffer.length) :
    (overwrite buffer offset bytes).length = buffer.length := by
  simp only [overwrite, List.length_append, List.length_take, List.length_drop]
  omega

/-- The written part holds the written bytes. -/
theorem slice_overwrite (fits : offset + bytes.length ≤ buffer.length) :
    slice (overwrite buffer offset bytes) offset bytes.length = bytes := by
  have start : (buffer.take offset).length = offset := List.length_take_of_le (by omega)
  rw [slice, overwrite, List.append_assoc, List.drop_left' start, List.take_left' rfl]

/-- A byte outside of the written part stays. -/
theorem getElem?_overwrite (fits : offset + bytes.length ≤ buffer.length)
    (outside : index < offset ∨ offset + bytes.length ≤ index) :
    (overwrite buffer offset bytes)[index]? = buffer[index]? := by
  have start : (buffer.take offset).length = offset := List.length_take_of_le (by omega)
  rw [overwrite, List.append_assoc]
  rcases outside with before | behind
  · rw [List.getElem?_append_left (by omega), List.getElem?_take_of_lt before]
  · rw [List.getElem?_append_right (by omega), List.getElem?_append_right (by omega), start,
      List.getElem?_drop]
    congr 1
    omega

end Fixed
end ForeignBindings
