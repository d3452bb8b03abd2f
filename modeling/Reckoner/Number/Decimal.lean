import Reckoner.Number.Units

/-!
# Decimal numbers

A nonnegative decimal number with finitely many places, its text, and the double it denotes.  The
text always writes every digit: a whole part, and behind a point as many digits as there are
places.
-/

namespace Reckoner

/-- The decimal number `digits / 10 ^ places`. -/
structure Decimal where
  digits : Nat
  places : Nat
deriving Repr, DecidableEq

namespace Decimal

def digitValue (character : Char) : Nat :=
  character.toNat - '0'.toNat

/-- The value of a run of decimal digits; the empty run is zero. -/
def valueOf (characters : List Char) : Nat :=
  characters.foldl (fun value character => 10 * value + digitValue character) 0

/-- The digits of a natural number, filled up with zeros on the left to at least `width`. -/
def padded (width value : Nat) : List Char :=
  let characters := Nat.toDigits 10 value
  List.replicate (width - characters.length) '0' ++ characters

def ofDigits (whole fraction : List Char) : Decimal where
  digits := valueOf (whole ++ fraction)
  places := fraction.length

/-- The characters of a decimal; the point is written only in front of places. -/
def characters (decimal : Decimal) : List Char :=
  let whole := Nat.toDigits 10 (decimal.digits / Nat.pow 10 decimal.places)
  if decimal.places = 0 then whole
  else whole ++ '.' :: padded decimal.places (decimal.digits % Nat.pow 10 decimal.places)

def toFloat (decimal : Decimal) (negative : Bool) : Float :=
  Number.ofRatio negative decimal.digits (Nat.pow 10 decimal.places)

/-- The decimal `count * 10 ^ exponent`. -/
def onGrid (count : Nat) : (exponent : Int) → Decimal
  | .ofNat exponent => ⟨count * Nat.pow 10 exponent, 0⟩
  | .negSucc exponent => ⟨count, exponent + 1⟩

end Decimal

end Reckoner
