import Reckoner.Number.Rounding

/-!
# Doubles as whole numbers of the least unit

Every finite double is a whole number of units of `2 ^ -1074`, the least positive double.  This
module takes a double apart into its sign and its number of units, and goes back: `ofRatio` is the
double nearest to a quotient of natural numbers.  All exact work of the calculator (reading and
writing decimals, remainders, whole parts) happens on these natural numbers.

The magnitude of a double is kept in the low 63 bits of its encoding: 52 bits of fraction below
11 bits of scale.  With scale `s` and significand `m < 2 ^ 53` the number of units is `m * 2 ^ s`,
and `s * 2 ^ 52 + m` is the encoding, also where rounding has carried `m` to `2 ^ 53`.
-/

namespace Reckoner

namespace Number

def unitsPerOne : Nat :=
  Nat.pow 2 1074

/-- The number of encodings that share a scale: the fraction has 52 bits. -/
def bitsPerScale : Nat :=
  Nat.pow 2 52

def infinityBits : Nat :=
  2047 * bitsPerScale

def signBit : Nat :=
  Nat.pow 2 63

/-- Whether the sign bit is set, which tells `-0` from `0`. -/
def isNegative (number : Float) : Bool :=
  signBit ≤ number.toBits.toNat

/-- The encoding without the sign bit. -/
def magnitudeBits (number : Float) : Nat :=
  number.toBits.toNat % signBit

/-- The number of units that an encoded magnitude stands for. -/
def unitsOfBits (bits : Nat) : Nat :=
  if bits < bitsPerScale then bits
  else (bitsPerScale + bits % bitsPerScale) * Nat.pow 2 (bits / bitsPerScale - 1)

/-- The absolute value of a finite double, counted in least units. -/
def units (number : Float) : Nat :=
  unitsOfBits (magnitudeBits number)

/-- The encoding of the magnitude nearest to `numerator / denominator` units; too large a quotient
is infinite. -/
def nearestBits (numerator denominator : Nat) : Nat :=
  let scale := (numerator / denominator).log2 - 52
  min infinityBits (scale * bitsPerScale + roundDiv numerator (denominator * Nat.pow 2 scale))

def ofMagnitudeBits (negative : Bool) (bits : Nat) : Float :=
  Float.ofBits (UInt64.ofNat (if negative then signBit + bits else bits))

def ofUnits (negative : Bool) (count : Nat) : Float :=
  ofMagnitudeBits negative (nearestBits count 1)

/-- The double nearest to `numerator / denominator`, a half going to the even significand. -/
def ofRatio (negative : Bool) (numerator denominator : Nat) : Float :=
  ofMagnitudeBits negative (nearestBits (numerator * unitsPerOne) denominator)

end Number

end Reckoner
