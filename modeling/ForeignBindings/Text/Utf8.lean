/-!
# UTF-8 text

Byte sequences as text.  Pieces keep every byte accountable: a well-formed sequence is one
character, and a byte that belongs to none stands alone.  The lossy reading instead puts one
replacement character for each longest ill-formed part.
-/

namespace ForeignBindings
namespace Text

/-- The bytes of a text. -/
def utf8 (text : String) : List UInt8 :=
  text.toByteArray.data.toList

/-- The text of a byte sequence, if all of it is well formed. -/
def ofUtf8? (bytes : List UInt8) : Option String :=
  String.fromUTF8? ⟨bytes.toArray⟩

/-- A character of a byte sequence, or `none` for one byte outside every well-formed character. -/
abbrev Piece := Option Char

namespace Piece

/-- The number of bytes that a piece takes. -/
def byteCount : Piece → Nat
  | some letter => letter.utf8Size
  | none => 1

/-- The pieces of a text. -/
def ofText (text : String) : List Piece :=
  text.toList.map some

/-- The pieces of a byte sequence from a position on. -/
def ofBytesFrom (bytes : ByteArray) (start : Nat) : List Piece :=
  if _inside : start < bytes.size then
    match bytes.utf8DecodeChar? start with
    | some letter => some letter :: ofBytesFrom bytes (start + letter.utf8Size)
    | none => none :: ofBytesFrom bytes (start + 1)
  else []
termination_by bytes.size - start
decreasing_by
  · have := letter.utf8Size_pos
    omega
  · omega

/-- The pieces of a byte sequence. -/
def ofBytes (bytes : List UInt8) : List Piece :=
  ofBytesFrom ⟨bytes.toArray⟩ 0

end Piece

/-- The second bytes that may follow a lead byte of three or four bytes. -/
def secondByteRange? (lead : UInt8) : Option (UInt8 × UInt8) :=
  if lead == 0xE0 then some (0xA0, 0xBF)
  else if lead == 0xED then some (0x80, 0x9F)
  else if 0xE1 ≤ lead && lead ≤ 0xEF then some (0x80, 0xBF)
  else if lead == 0xF0 then some (0x90, 0xBF)
  else if 0xF1 ≤ lead && lead ≤ 0xF3 then some (0x80, 0xBF)
  else if lead == 0xF4 then some (0x80, 0x8F)
  else none

/-- How many bytes after an ill-formed lead byte belong to the same ill-formed part. -/
def illFormedTail (lead : UInt8) (following : List UInt8) : Nat :=
  match secondByteRange? lead, following with
  | some (low, high), second :: rest =>
      if low ≤ second && second ≤ high then
        match rest with
        | third :: _ => if 0xF0 ≤ lead && 0x80 ≤ third && third ≤ 0xBF then 2 else 1
        | [] => 1
      else 0
  | _, _ => 0

/-- The characters of a byte sequence from a position on, ill-formed parts replaced. -/
def lossyFrom (bytes : ByteArray) (start : Nat) : List Char :=
  if _inside : start < bytes.size then
    match bytes.utf8DecodeChar? start with
    | some letter => letter :: lossyFrom bytes (start + letter.utf8Size)
    | none =>
        let following := (bytes.extract (start + 1) (start + 3)).data.toList
        '\ufffd' :: lossyFrom bytes (start + 1 + illFormedTail bytes[start] following)
  else []
termination_by bytes.size - start
decreasing_by
  · have := letter.utf8Size_pos
    omega
  · omega

/-- The text of a byte sequence with one replacement character for each ill-formed part. -/
def ofUtf8Lossy (bytes : List UInt8) : String :=
  String.ofList (lossyFrom ⟨bytes.toArray⟩ 0)

end Text
end ForeignBindings
