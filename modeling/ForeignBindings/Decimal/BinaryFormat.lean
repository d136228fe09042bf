/-!
# Binary floating-point formats

A format of floating-point numbers is given by the widths of its exponent and fraction fields; a
number is its bit pattern.  A finite pattern stands for a sign and a magnitude `m * 2 ^ e`, and any
fraction of natural numbers is rounded to the nearest pattern, a tie going to the even one and a
magnitude beyond the greatest finite one to infinity.
-/

namespace ForeignBindings

/-- A floating-point format with a sign bit, a biased exponent and a fraction. -/
structure BinaryFormat where
  /-- The number of bits of the exponent field. -/
  exponentWidth : Nat
  /-- The number of bits of the fraction field. -/
  fractionWidth : Nat
  deriving DecidableEq, Repr

namespace BinaryFormat

/-- The format of four bytes. -/
def single : BinaryFormat := ⟨8, 23⟩

/-- The format of eight bytes. -/
def double : BinaryFormat := ⟨11, 52⟩

/-- The value of the sign bit. -/
def signUnit (format : BinaryFormat) : Nat :=
  1 <<< (format.exponentWidth + format.fractionWidth)

/-- The value of the lowest bit of the exponent field, which is also the hidden bit. -/
def hiddenUnit (format : BinaryFormat) : Nat :=
  1 <<< format.fractionWidth

/-- The exponent field of infinities and NaNs. -/
def specialExponent (format : BinaryFormat) : Nat :=
  (1 <<< format.exponentWidth) - 1

/-- The exponent of the unit in the last place of the smallest magnitudes. -/
def leastExponent (format : BinaryFormat) : Int :=
  2 - (1 <<< (format.exponentWidth - 1) : Nat) - format.fractionWidth

/-- Whether the sign bit of a pattern is set. -/
def isNegative (format : BinaryFormat) (bits : Nat) : Bool :=
  bits / format.signUnit % 2 == 1

/-- The exponent field of a pattern. -/
def exponentField (format : BinaryFormat) (bits : Nat) : Nat :=
  bits / format.hiddenUnit % (1 <<< format.exponentWidth)

/-- The fraction field of a pattern. -/
def fractionField (format : BinaryFormat) (bits : Nat) : Nat :=
  bits % format.hiddenUnit

/-- Whether a pattern is a number, not an infinity or a NaN. -/
def isFinite (format : BinaryFormat) (bits : Nat) : Bool :=
  format.exponentField bits != format.specialExponent

/-- The integer `m` of the magnitude `m * 2 ^ e` of a finite pattern. -/
def mantissa (format : BinaryFormat) (bits : Nat) : Nat :=
  if format.exponentField bits = 0 then format.fractionField bits
  else format.hiddenUnit + format.fractionField bits

/-- The exponent `e` of the magnitude `m * 2 ^ e` of a finite pattern. -/
def exponent (format : BinaryFormat) (bits : Nat) : Int :=
  format.leastExponent + (format.exponentField bits - 1 : Nat)

/-- The quotient of two natural numbers rounded to the nearest integer, a tie to the even one. -/
def divideToEven (numerator denominator : Nat) : Nat :=
  let quotient := numerator / denominator
  let twice := 2 * (numerator % denominator)
  if twice < denominator then quotient
  else if twice = denominator then quotient + quotient % 2
  else quotient + 1

/-- The fraction `numerator * 2 ^ e / denominator` with a natural numerator and denominator. -/
def scaleByTwo (numerator denominator : Nat) (exponent : Int) : Nat × Nat :=
  if 0 ≤ exponent then (numerator <<< exponent.toNat, denominator)
  else (numerator, denominator <<< (-exponent).toNat)

/-- The binary logarithm of a positive fraction, rounded down. -/
def logTwo (numerator denominator : Nat) : Int :=
  let estimate : Int := numerator.log2 - denominator.log2
  let (scaled, unit) := scaleByTwo numerator denominator (-estimate)
  if scaled < unit then estimate - 1 else estimate

/-- The exponent field, counted from the least normal one, and the fraction of the pattern nearest
to a magnitude; a rounding that carries into the next binade carries into the exponent field. -/
def roundMagnitude (format : BinaryFormat) (numerator denominator : Nat) : Nat :=
  if numerator = 0 then 0
  else
    let ulp := max (logTwo numerator denominator - format.fractionWidth) format.leastExponent
    let (scaled, unit) := scaleByTwo numerator denominator (-ulp)
    (ulp - format.leastExponent).toNat * format.hiddenUnit + divideToEven scaled unit

/-- The pattern of an infinity without its sign. -/
def infinity (format : BinaryFormat) : Nat :=
  format.specialExponent * format.hiddenUnit

/-- The pattern nearest to a signed fraction. -/
def round (format : BinaryFormat) (negative : Bool) (numerator denominator : Nat) : Nat :=
  (if negative then format.signUnit else 0) +
    min (format.roundMagnitude numerator denominator) format.infinity

/-- The pattern of one format nearest to a finite pattern of another. -/
def convert (source target : BinaryFormat) (bits : Nat) : Nat :=
  let (numerator, denominator) := scaleByTwo (source.mantissa bits) 1 (source.exponent bits)
  target.round (source.isNegative bits) numerator denominator

example : double.round false 1 1 = 0x3FF0000000000000 := by decide +kernel

example : double.convert single (double.round true 1 10) = 0xBDCCCCCD := by decide +kernel

example : single.convert double 1 = 0x36A0000000000000 := by decide +kernel

example : double.convert single (double.round false (10 ^ 40) 1) = single.infinity := by
  decide +kernel

end BinaryFormat
end ForeignBindings
