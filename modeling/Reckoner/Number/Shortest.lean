import Reckoner.Number.Decimal

/-!
# The shortest decimal of a double

Numbers are written with the fewest digits that read back as the same double.  The search goes
from coarse decimal grids to fine ones, `10 ^ exponent` apart.  On each grid only the two
neighbours of the exact value can be the answer; a neighbour counts when reading it gives the
double back, and the first grid with such a neighbour decides.  If both neighbours read back, the
nearer one is taken, and of two equally near ones the upper.

On the grid of `10 ^ -1074` every double lies exactly, so the search always ends there.
-/

namespace Reckoner

namespace Number

def bitsOfDecimal (decimal : Decimal) : Nat :=
  nearestBits (decimal.digits * unitsPerOne) (Nat.pow 10 decimal.places)

/-- The exact quotient of a number of units by a power of ten, as numerator and denominator. -/
def scaledDown (count : Nat) : (exponent : Int) → Nat × Nat
  | .ofNat exponent => (count, unitsPerOne * Nat.pow 10 exponent)
  | .negSucc exponent => (count * Nat.pow 10 (exponent + 1), unitsPerOne)

/-- The neighbour on the grid of `10 ^ exponent` that reads back as the magnitude `bits`. -/
def hitOnGrid (bits : Nat) (exponent : Int) : Option Decimal :=
  let (numerator, denominator) := scaledDown (unitsOfBits bits) exponent
  let lower := Decimal.onGrid (numerator / denominator) exponent
  let upper := Decimal.onGrid (numerator / denominator + 1) exponent
  if bitsOfDecimal lower = bits then
    if bitsOfDecimal upper = bits ∧ denominator ≤ 2 * (numerator % denominator) then some upper
    else some lower
  else if bitsOfDecimal upper = bits then some upper
  else none

/-- The number of places of the grid on which every double lies. -/
def finestPlaces : Nat := 1074

def onFinestGrid (count : Nat) : Nat :=
  count * Nat.pow 5 finestPlaces

/-- The exponent of the greatest power of ten that is not above a positive number, found bit by
bit; the number has to be below `10 ^ 2 ^ bits`. -/
def decimalExponent : (bits : Nat) → (number : Nat) → Nat
  | 0, _ => 0
  | bits + 1, number =>
    let step := Nat.pow 2 bits
    let power := Nat.pow 10 step
    if power ≤ number then step + decimalExponent bits (number / power)
    else decimalExponent bits number

/-- The place of the leading digit of a number of least units, counted from the last digit on the
finest grid.  There the greatest double has fewer than 1400 digits. -/
def leadingPlace (count : Nat) : Nat :=
  decimalExponent 11 (onFinestGrid count)

/-- Searches the grids from `10 ^ (level - 1074)` down to `10 ^ -1074`, where the value itself
lies. -/
def searchGrids (bits : Nat) : (level : Nat) → Decimal
  | 0 => ⟨onFinestGrid (unitsOfBits bits), finestPlaces⟩
  | level + 1 =>
    (hitOnGrid bits (Int.ofNat (level + 1) - finestPlaces)).getD (searchGrids bits level)

def shortestOfBits (bits : Nat) : Decimal :=
  if bits = 0 then ⟨0, 0⟩ else searchGrids bits (leadingPlace (unitsOfBits bits) + 1)

/-- The shortest decimal that reads back as the absolute value of a finite double. -/
def shortest (number : Float) : Decimal :=
  shortestOfBits (magnitudeBits number)

def signCharacters (number : Float) : List Char :=
  if isNegative number then ['-'] else []

/-- The text of a number: shortest digits, written out without an exponent. -/
def characters (number : Float) : List Char :=
  if number.isNaN then ['N', 'a', 'N']
  else if number.isInf then signCharacters number ++ ['i', 'n', 'f']
  else signCharacters number ++ (shortest number).characters

def text (number : Float) : String :=
  String.ofList (characters number)

end Number

end Reckoner
