import ForeignBindings.Text.Utf8

/-!
# Pieces of encoded texts

The bytes of a text fall into one piece for each of its characters, so a reader of pieces sees a
printed text as it was.
-/

namespace ForeignBindings
namespace Text
namespace Piece

theorem utf8DecodeChar?_utf8Encode (before after : List Char) (letter : Char) :
    (before.utf8Encode ++ (letter :: after).utf8Encode).utf8DecodeChar? before.utf8Encode.size =
      some letter := by
  rw [ByteArray.utf8DecodeChar?_eq_utf8DecodeChar?_extract,
    ByteArray.extract_append_eq_right rfl ByteArray.size_append]
  exact List.utf8DecodeChar?_utf8Encode_cons

/-- Behind the bytes of some characters, the pieces are the characters that follow. -/
theorem ofBytesFrom_utf8Encode (before after : List Char) :
    ofBytesFrom (before.utf8Encode ++ after.utf8Encode) before.utf8Encode.size =
      after.map some := by
  induction after generalizing before with
  | nil =>
      rw [ofBytesFrom]
      simp
  | cons letter after induction =>
      have decoded := utf8DecodeChar?_utf8Encode before after letter
      have inside := ByteArray.lt_size_of_isSome_utf8DecodeChar?
        (Option.isSome_of_eq_some decoded)
      have regrouped : before.utf8Encode ++ (letter :: after).utf8Encode =
          (before ++ [letter]).utf8Encode ++ after.utf8Encode := by
        rw [← List.utf8Encode_append, ← List.utf8Encode_append, List.append_assoc,
          List.singleton_append]
      have advanced : before.utf8Encode.size + letter.utf8Size =
          (before ++ [letter]).utf8Encode.size := by
        simp [List.utf8Encode_singleton]
      rw [ofBytesFrom, dif_pos inside, decoded]
      simp only [List.map_cons]
      rw [regrouped, advanced, induction]

/-- The pieces of an encoded text are its characters. -/
theorem ofBytes_utf8 (text : String) : ofBytes (utf8 text) = ofText text := by
  simpa [ofBytes, utf8, ofText] using ofBytesFrom_utf8Encode [] text.toList

end Piece
end Text
end ForeignBindings
