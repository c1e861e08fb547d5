/-
This file holds decimal numbers and the double precision numbers nearest to them. A double is
kept as its 64 bits, so that its order and its rounding are arithmetic on natural numbers.
-/

namespace ServiceDiscovery

/-- The number `digits * 10 ^ exponent`, with a sign of its own so that zero can carry one. -/
structure Decimal where
  negative : Bool
  digits : Nat
  exponent : Int
  deriving DecidableEq, Repr

/-- A double precision number by its bits: sign, eleven bits of exponent, 52 of fraction. -/
structure Double where
  bits : UInt64
  deriving DecidableEq, Repr

namespace Double

def signBit : Nat := 0x8000000000000000

/-- The bits of infinity; larger magnitudes are not numbers. -/
def infinityBits : Nat := 0x7FF0000000000000

/-- A sign and a magnitude, which orders the numbers of one sign as they are ordered. -/
def ofParts (negative : Bool) (magnitude : Nat) : Double :=
  ⟨UInt64.ofNat ((if negative then signBit else 0) + magnitude)⟩

def infinity (negative : Bool) : Double :=
  ofParts negative infinityBits

def notANumber : Double :=
  ofParts false 0x7FF8000000000000

def magnitude (value : Double) : Nat :=
  value.bits.toNat % signBit

def isNegative (value : Double) : Bool :=
  signBit ≤ value.bits.toNat

def isNaN (value : Double) : Bool :=
  infinityBits < value.magnitude

/-- The place of a number on the line; both zeros are at the same place. -/
def position (value : Double) : Int :=
  if value.isNegative then -(value.magnitude : Int) else value.magnitude

/-- The first number is larger than the second; no number compares to one that is none. -/
def exceeds (first second : Double) : Bool :=
  !first.isNaN && !second.isNaN && decide (second.position < first.position)

end Double

namespace Decimal

/-- A natural number. -/
def ofNat (value : Nat) : Decimal :=
  ⟨false, value, 0⟩

/-- The quotient, rounded to the nearest whole number, a tie to the even one. -/
def roundedQuotient (numerator denominator : Nat) : Nat :=
  let whole := numerator / denominator
  let twice := 2 * (numerator % denominator)
  if twice < denominator then whole
  else if denominator < twice then whole + 1
  else whole + whole % 2

/-- The rounded quotient in units of `2 ^ scale`. -/
def inUnits (numerator denominator : Nat) (scale : Int) : Nat :=
  if 0 ≤ scale then roundedQuotient numerator (denominator * Nat.pow 2 scale.toNat)
  else roundedQuotient (numerator * Nat.pow 2 (-scale).toNat) denominator

/-- The quotient is at least `2 ^ power`. -/
def reaches (numerator denominator : Nat) (power : Int) : Bool :=
  if 0 ≤ power then denominator * Nat.pow 2 power.toNat ≤ numerator
  else denominator ≤ numerator * Nat.pow 2 (-power).toNat

/-- The magnitude of the double nearest to a positive quotient. The unit is that of the
53 bits that a double keeps, and never below the least double. -/
def nearestMagnitude (numerator denominator : Nat) : Nat :=
  let power : Int := numerator.log2 - denominator.log2
  let lead := if reaches numerator denominator power then power else power - 1
  let scale := max (lead - 52) (-1074)
  let magnitude := (scale + 1074).toNat * Nat.pow 2 52 + inUnits numerator denominator scale
  min magnitude Double.infinityBits

/-- The double nearest to a decimal number. From `10 ^ 310` on that is infinity, and below
`2 ^ (-1075)` it is zero, so that huge exponents need no huge powers. -/
def nearest (value : Decimal) : Double :=
  if value.digits = 0 then Double.ofParts value.negative 0
  else if 309 < value.exponent then Double.infinity value.negative
  else if 0 ≤ value.exponent then
    Double.ofParts value.negative (nearestMagnitude (value.digits * Nat.pow 10 value.exponent.toNat) 1)
  else if value.digits.log2 + 1076 ≤ 3 * (-value.exponent).toNat then
    Double.ofParts value.negative 0
  else
    Double.ofParts value.negative
      (nearestMagnitude value.digits (Nat.pow 10 (-value.exponent).toNat))

/-- The number is too large for every finite double. -/
def overflows (value : Decimal) : Bool :=
  value.nearest.magnitude == Double.infinityBits

end Decimal

end ServiceDiscovery
