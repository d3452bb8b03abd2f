import Reckoner.Number.Shortest

/-!
# Results with a limited number of digits

A result is shown with at most six places behind the point, without superfluous zeros; a result
that is very large or very close to zero is shown with seven digits and a power of ten.  Both
forms round the exact value, a half going to the even digit.
-/

namespace Reckoner

namespace Number

structure ResultFormat where
  places : Nat
  /-- Above this whole number the power of ten is written. -/
  largest : Nat
  /-- Below one part in this many the power of ten is written. -/
  smallestPart : Nat
deriving Repr, DecidableEq

/-- Six places; powers of ten above `10 ^ 10` and below `10 ^ -5`. -/
def resultFormat : ResultFormat where
  places := 6
  largest := Nat.pow 10 10
  smallestPart := Nat.pow 10 5

def dropTrailing (character : Char) (characters : List Char) : List Char :=
  (characters.reverse.dropWhile (· == character)).reverse

/-- The multiple of `10 ^ -places` nearest to a number of units. -/
def roundToPlaces (places count : Nat) : Decimal where
  digits := roundDiv (count * Nat.pow 10 places) unitsPerOne
  places := places

/-- The power of ten of the leading digit of a positive number of units. -/
def leadingExponent (count : Nat) : Int :=
  Int.ofNat (leadingPlace count) - finestPlaces

/-- The significand of a number of units whose leading digit has the given power of ten, with
`places` digits behind its first, and the power of ten that belongs to it.  A significand that
rounds up to ten becomes one. -/
def significandAt (places count : Nat) (exponent : Int) : Nat × Int :=
  let (numerator, denominator) := scaledDown count (exponent - places)
  let digits := roundDiv numerator denominator
  if digits = Nat.pow 10 (places + 1) then (Nat.pow 10 places, exponent + 1)
  else (digits, exponent)

def significand (places count : Nat) : Nat × Int :=
  significandAt places count (leadingExponent count)

def wholeCharacters (value : Int) : List Char :=
  if value < 0 then '-' :: Nat.toDigits 10 value.natAbs else Nat.toDigits 10 value.natAbs

def scientificCharacters (places : Nat) (number : Float) : List Char :=
  let rounded := significand places (units number)
  signCharacters number ++ (Decimal.mk rounded.1 places).characters ++
    'e' :: wholeCharacters rounded.2

def fixedCharacters (places : Nat) (number : Float) : List Char :=
  signCharacters number ++ (roundToPlaces places (units number)).characters

def ResultFormat.needsExponent (format : ResultFormat) (count : Nat) : Bool :=
  format.largest * unitsPerOne < count ||
    (count * format.smallestPart < unitsPerOne && count != 0)

def ResultFormat.characters (format : ResultFormat) (number : Float) : List Char :=
  if !number.isFinite then Number.characters number
  else if format.needsExponent (units number) then scientificCharacters format.places number
  else dropTrailing '.' (dropTrailing '0' (fixedCharacters format.places number))

def resultText (number : Float) : String :=
  String.ofList (resultFormat.characters number)

end Number

end Reckoner
