import Reckoner.Number.Units

/-!
# Whole parts and remainders

Operations on doubles whose results are exact: rounding to a whole number in three directions and
the remainder of a division cut off toward zero.  The sign of the argument is kept throughout,
also where the magnitude becomes zero.
-/

namespace Reckoner

namespace Number

def isWhole (number : Float) : Bool :=
  number.isFinite && units number % unitsPerOne == 0

def wholePart (number : Float) : Nat :=
  units number / unitsPerOne

/-- Replaces a fractional number by a whole one of the same sign and the given magnitude; whole
numbers, infinities and the undefined number stay. -/
def toWhole (number : Float) (magnitude : Nat) : Float :=
  if isWhole number || !number.isFinite then number
  else ofUnits (isNegative number) (magnitude * unitsPerOne)

def floor (number : Float) : Float :=
  toWhole number (if isNegative number then wholePart number + 1 else wholePart number)

def ceiling (number : Float) : Float :=
  toWhole number (if isNegative number then wholePart number else wholePart number + 1)

/-- The nearest whole number, a half going away from zero. -/
def round (number : Float) : Float :=
  let half := 2 * (units number % unitsPerOne)
  toWhole number (if unitsPerOne ≤ half then wholePart number + 1 else wholePart number)

/-- What is left of the dividend after taking the divisor away as often as it fits, with the sign
of the dividend. -/
def remainder (dividend divisor : Float) : Float :=
  if dividend.isNaN || divisor.isNaN || dividend.isInf || units divisor == 0 then 0 / 0
  else if divisor.isInf then dividend
  else ofUnits (isNegative dividend) (units dividend % units divisor)

end Number

end Reckoner
