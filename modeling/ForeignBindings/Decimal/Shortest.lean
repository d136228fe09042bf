import ForeignBindings.Decimal.BinaryFormat

/-!
# Shortest decimals

The decimal with the fewest digits that reads back as a given floating-point number.  The numbers
that round to it form an interval, whose ends belong to it if its mantissa is even.  For one digit,
two digits and so on, the two decimals of that many digits next to the number are tried, and the
nearer of those inside the interval is taken.
-/

namespace ForeignBindings

/-- A decimal `0.d₁d₂… * 10 ^ point` by its digits. -/
structure Decimal where
  /-- The digits, without zeros at the end. -/
  digits : List Nat
  /-- The power of ten of the decimal point. -/
  point : Int
  deriving DecidableEq, Repr, Inhabited

namespace Decimal

/-- The decimal digits of a number, the highest first. -/
def digitsOf (number : Nat) : List Nat :=
  (Nat.toDigits 10 number).map fun digit => digit.toNat - '0'.toNat

/-- The fraction `numerator * 10 ^ e / denominator` with a natural numerator and denominator. -/
def scaleByTen (numerator denominator : Nat) (exponent : Int) : Nat × Nat :=
  if 0 ≤ exponent then (numerator * Nat.pow 10 exponent.toNat, denominator)
  else (numerator, denominator * Nat.pow 10 (-exponent).toNat)

/-- The interval of the numbers that round to a finite pattern, in quarters of the unit in the last
place: its lower end, the number itself, its upper end, and whether the ends belong to it. -/
structure Interval where
  /-- The lower end. -/
  lower : Nat
  /-- The number itself. -/
  middle : Nat
  /-- The upper end. -/
  upper : Nat
  /-- Whether the ends round to the number. -/
  closed : Bool
  deriving DecidableEq, Repr

/-- The interval of a finite pattern; below the least mantissa of a binade the numbers lie twice as
dense. -/
def intervalOf (format : BinaryFormat) (bits : Nat) : Interval :=
  let mantissa := format.mantissa bits
  let narrow := format.fractionField bits = 0 ∧ 1 < format.exponentField bits
  { lower := 4 * mantissa - (if narrow then 1 else 2)
    middle := 4 * mantissa
    upper := 4 * mantissa + 2
    closed := mantissa % 2 == 0 }

/-- Whether a number lies in an interval whose unit is `unit`. -/
def Interval.contains (interval : Interval) (number unit : Nat) : Bool :=
  if interval.closed then interval.lower * unit ≤ number && number ≤ interval.upper * unit
  else interval.lower * unit < number && number < interval.upper * unit

/-- The multiple of `step` inside the interval that is nearest to its middle, if one of the two next
to the middle is inside; a tie goes to the even multiple. -/
def nearestInside? (interval : Interval) (step unit : Nat) : Option Nat :=
  let middle := interval.middle * unit
  let below := middle / step
  let above := below + 1
  let belowInside := interval.contains (below * step) unit && below != 0
  let aboveInside := interval.contains (above * step) unit
  let toBelow := middle - below * step
  let toAbove := above * step - middle
  if belowInside && aboveInside then
    if toBelow < toAbove then some below
    else if toAbove < toBelow then some above
    else some (if below % 2 = 0 then below else above)
  else if belowInside then some below
  else if aboveInside then some above
  else none

/-- The power of ten just above a positive fraction. -/
def pointOf (numerator denominator : Nat) : Int :=
  let estimate : Int :=
    (digitsOf numerator).length - (digitsOf denominator).length
  let (scaled, unit) := scaleByTen numerator denominator (-estimate)
  if unit ≤ scaled then estimate + 1 else estimate

/-- A decimal without zeros at its end. -/
def strip (digits : List Nat) : List Nat :=
  (digits.reverse.dropWhile (· == 0)).reverse

/-- The decimal of `count` digits next to a number, or of more digits up to `steps` further, that
lies in the interval of numbers that round to it. -/
def search (interval : Interval) (binaryExponent point : Int) : Nat → Nat → Decimal
  | 0, _ => ⟨[], 0⟩
  | steps + 1, count =>
      let (quarters, unit) := BinaryFormat.scaleByTwo 1 1 (binaryExponent - 2)
      let (scale, step) := scaleByTen 1 1 (count - point)
      match nearestInside? interval (step * unit) (quarters * scale) with
      | some number =>
          let digits := digitsOf number
          ⟨strip digits, point + (digits.length - count : Int)⟩
      | none => search interval binaryExponent point steps (count + 1)

/-- The shortest decimal of the magnitude of a finite pattern; zero has no digits.  Seventeen digits
tell all numbers of eight bytes apart. -/
def shortest (format : BinaryFormat) (bits : Nat) : Decimal :=
  if format.mantissa bits = 0 then ⟨[], 0⟩
  else
    let (numerator, denominator) :=
      BinaryFormat.scaleByTwo (format.mantissa bits) 1 (format.exponent bits)
    search (intervalOf format bits) (format.exponent bits) (pointOf numerator denominator) 17 1

example : shortest .double (BinaryFormat.double.round false 1 10) = ⟨[1], 0⟩ := by decide +kernel

example : shortest .double 1 = ⟨[5], -323⟩ := by decide +kernel

example : shortest .double (BinaryFormat.double.round false (10 ^ 23) 1) = ⟨[1], 24⟩ := by
  decide +kernel

/-- The pattern nearest to the decimal `number * 10 ^ e`.  Magnitudes whose decimal point lies far
outside the range of the format are infinite or zero without any computation. -/
def read (format : BinaryFormat) (negative : Bool) (number : Nat) (exponent : Int) : Nat :=
  let point := exponent + (digitsOf number).length
  let sign := if negative then format.signUnit else 0
  if number = 0 then sign
  else if 400 < point then sign + format.infinity
  else if point < -400 then sign
  else
    let (numerator, denominator) := scaleByTen number 1 exponent
    format.round negative numerator denominator

end Decimal
end ForeignBindings
