import ForeignBindings.Decimal.Shortest

/-!
# JSON numbers

A number is an integer between -2^63 and 2^64 - 1 or a finite floating-point number of eight bytes.
Integers are written plainly; floating-point numbers are written with their shortest digits, always
with a point or an exponent.
-/

namespace ForeignBindings
namespace Json

/-- The least integer of 64 bits. -/
def leastInteger : Int := -0x8000000000000000

/-- The first integer above all signed integers of 64 bits. -/
def signedLimit : Int := 0x8000000000000000

/-- The first integer above all unsigned integers of 64 bits. -/
def unsignedLimit : Int := 0x10000000000000000

/-- A JSON number. -/
inductive Number where
  /-- An integer literal within the range of 64 bits, signed or unsigned. -/
  | integer (value : Int) (lower : leastInteger ≤ value) (upper : value < unsignedLimit)
  /-- Any other number, by its bit pattern. -/
  | float (bits : Nat) (finite : BinaryFormat.double.isFinite bits = true)
  deriving DecidableEq, Repr

namespace Number

instance : Inhabited Number := ⟨.integer 0 (by decide) (by decide)⟩

/-- An integer within the range of 64 bits as a number. -/
def ofInt? (value : Int) : Option Number :=
  if lower : leastInteger ≤ value then
    if upper : value < unsignedLimit then some (.integer value lower upper) else none
  else none

/-- A finite bit pattern as a number. -/
def ofBits? (bits : Nat) : Option Number :=
  if finite : BinaryFormat.double.isFinite bits = true then some (.float bits finite) else none

/-- The value as a signed integer of 64 bits. -/
def asSigned? : Number → Option Int
  | .integer value _ _ => if value < signedLimit then some value else none
  | .float _ _ => none

/-- The value as an unsigned integer of 64 bits. -/
def asUnsigned? : Number → Option Nat
  | .integer value _ _ => if 0 ≤ value then some value.toNat else none
  | .float _ _ => none

/-- The bit pattern of the nearest floating-point number of eight bytes. -/
def doubleBits : Number → Nat
  | .integer value _ _ => BinaryFormat.double.round (value < 0) value.natAbs 1
  | .float bits _ => bits

/-- How floating-point numbers are laid out. -/
structure FloatStyle where
  /-- The point of a positional decimal is above this power of ten. -/
  lowestPoint : Int
  /-- The point of a positional decimal is at most this power of ten. -/
  highestPoint : Int
  deriving Repr

/-- Positional from 0.00001 up to below 10^16, and with a signed exponent otherwise. -/
def floatStyle : FloatStyle := ⟨-5, 16⟩

/-- Decimal digits as characters. -/
def digitChars (digits : List Nat) : List Char :=
  digits.map Nat.digitChar

/-- A positive decimal as text. -/
def decimalChars (style : FloatStyle) (decimal : Decimal) : List Char :=
  let digits := digitChars decimal.digits
  let point := decimal.point
  if 0 < point ∧ point ≤ style.highestPoint then
    let whole := point.toNat
    let fraction := digits.drop whole
    digits.take whole ++ List.replicate (whole - digits.length) '0' ++
      '.' :: (if fraction.isEmpty then ['0'] else fraction)
  else if style.lowestPoint < point ∧ point ≤ 0 then
    '0' :: '.' :: List.replicate (-point).toNat '0' ++ digits
  else
    let exponent := point - 1
    digits.take 1 ++ (if digits.length ≤ 1 then [] else '.' :: digits.drop 1) ++
      'e' :: (if exponent < 0 then '-' else '+') :: Nat.toDigits 10 exponent.natAbs

/-- A bit pattern as text. -/
def floatChars (bits : Nat) : List Char :=
  let decimal := Decimal.shortest .double bits
  (if BinaryFormat.double.isNegative bits then ['-'] else []) ++
    if decimal.digits.isEmpty then ['0', '.', '0'] else decimalChars floatStyle decimal

/-- An integer as text. -/
def integerChars (value : Int) : List Char :=
  (if value < 0 then ['-'] else []) ++ Nat.toDigits 10 value.natAbs

/-- A number as text. -/
def chars : Number → List Char
  | .integer value _ _ => integerChars value
  | .float bits _ => floatChars bits

example : floatChars 0x3FF0000000000000 = ['1', '.', '0'] := by decide +kernel

example : floatChars (BinaryFormat.double.round true 1 (10 ^ 7)) = ['-', '1', 'e', '-', '7'] := by
  decide +kernel

end Number
end Json
end ForeignBindings
