import ForeignBindings.Text.Utf8

/-!
# Octets

Byte sequences as characters: a character below 256 stands for the byte of its number.  Tools see
their arguments, their input and their output in this form, whatever the bytes mean.
-/

namespace ForeignBindings
namespace Octets

/-- The octets of a byte sequence. -/
def ofBytes (bytes : List UInt8) : List Char :=
  bytes.map fun byte => Char.ofNat byte.toNat

/-- The byte sequence of octets. -/
def toBytes (octets : List Char) : List UInt8 :=
  octets.map fun octet => octet.toNat.toUInt8

/-- Every byte is an octet. -/
theorem toBytes_ofBytes (bytes : List UInt8) : toBytes (ofBytes bytes) = bytes := by
  have byte (one : UInt8) : (Char.ofNat one.toNat).toNat.toUInt8 = one := by
    have small : one.toNat < 256 := one.toNat_lt
    have valid : one.toNat.isValidChar := .inl (by omega)
    have number : (Char.ofNat one.toNat).toNat = one.toNat := by
      rw [Char.ofNat, dif_pos valid]
      rfl
    rw [number]
    exact UInt8.ofNat_toNat
  rw [toBytes, ofBytes, List.map_map]
  exact (List.map_congr_left fun one _ => byte one).trans (List.map_id _)

/-- The octets of a text. -/
def ofText (text : String) : String :=
  String.ofList (ofBytes (Text.utf8 text))

/-- The text of octets; what is no text is replaced. -/
def toText (octets : String) : String :=
  Text.ofUtf8Lossy (toBytes octets.toList)

/-- Whether an octet is a space of any kind. -/
def isSpace (octet : Char) : Bool :=
  octet == ' ' || (9 ≤ octet.toNat && octet.toNat ≤ 13)

/-- Puts an octet in front of lines. -/
def consLine (octet : Char) : List (List Char) → List (List Char)
  | [] => [[octet]]
  | line :: lines => if octet = '\n' then [octet] :: line :: lines else (octet :: line) :: lines

/-- The lines of octets with their ends as they are; the last one may have none. -/
def lines (octets : List Char) : List (List Char) := octets.foldr consLine []

/-- A line without its end. -/
def withoutEnd (line : List Char) : List Char := line.takeWhile (· != '\n')

/-- Lines, each with an end. -/
def ended (lines : List (List Char)) : List Char := lines.flatMap (· ++ ['\n'])

/-- The octets without spaces at both ends. -/
def trim (octets : List Char) : List Char :=
  ((octets.dropWhile isSpace).reverse.dropWhile isSpace).reverse

/-- What an escape stands for, given the octets behind its backslash, and the octets behind it: a
sign, or a number of up to three digits in base eight. -/
def escape : List Char → List Char × List Char
  | 'n' :: rest => (['\n'], rest)
  | 't' :: rest => (['\t'], rest)
  | 'r' :: rest => (['\r'], rest)
  | '\\' :: rest => (['\\'], rest)
  | octets =>
      let digits := (octets.take 3).takeWhile fun octet => '0' ≤ octet && octet ≤ '7'
      let code := digits.foldl (fun code digit => 8 * code + (digit.toNat - '0'.toNat)) 0
      if digits.isEmpty then (['\\'], octets)
      else ([Char.ofNat (code % 256)], octets.drop digits.length)

end Octets
end ForeignBindings
