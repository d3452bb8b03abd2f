import Reckoner.Environment
import Reckoner.Number.Whole

/-!
# Built-in names

The constants and functions that every calculator starts with.  Angles are in degrees.  A function
whose argument lies outside its domain refuses it.
-/

namespace Reckoner

namespace Refusal

def negative : Refusal := ⟨"non-negative numbers"⟩

def outsideUnit : Refusal := ⟨"[-1, 1]"⟩

def notPositive : Refusal := ⟨"positive numbers"⟩

def improperBase : Refusal := ⟨"base must be positive and not 1"⟩

def negativeFactorial : Refusal := ⟨"not defined for negative numbers"⟩

def fractionalFactorial : Refusal := ⟨"requires an integer argument"⟩

end Refusal

namespace Builtin

def pi : Float := 3.141592653589793

/-- The base of the natural logarithm. -/
def euler : Float := 2.718281828459045

def toRadians (degrees : Float) : Float :=
  degrees * (pi / 180)

def toDegrees (radians : Float) : Float :=
  radians * 57.29577951308232

def squareRoot (number : Float) : Except Refusal Float :=
  if number < 0 then .error .negative else .ok number.sqrt

def sine (degrees : Float) : Except Refusal Float :=
  .ok (toRadians degrees).sin

def cosine (degrees : Float) : Except Refusal Float :=
  .ok (toRadians degrees).cos

def tangent (degrees : Float) : Except Refusal Float :=
  .ok (toRadians degrees).tan

def arcsine (number : Float) : Except Refusal Float :=
  if -1 ≤ number ∧ number ≤ 1 then .ok (toDegrees number.asin) else .error .outsideUnit

def arccosine (number : Float) : Except Refusal Float :=
  if -1 ≤ number ∧ number ≤ 1 then .ok (toDegrees number.acos) else .error .outsideUnit

def arctangent (number : Float) : Except Refusal Float :=
  .ok (toDegrees number.atan)

def decimalLogarithm (number : Float) : Except Refusal Float :=
  if number ≤ 0 then .error .notPositive else .ok number.log10

def logarithm (number base : Float) : Except Refusal Float :=
  if number ≤ 0 then .error .notPositive
  else if base ≤ 0 ∨ base == 1 then .error .improperBase
  else .ok (number.log / base.log)

def naturalLogarithm (number : Float) : Except Refusal Float :=
  if number ≤ 0 then .error .notPositive else .ok number.log

def exponential (number : Float) : Except Refusal Float :=
  .ok number.exp

def absolute (number : Float) : Except Refusal Float :=
  .ok number.abs

def floor (number : Float) : Except Refusal Float :=
  .ok (Number.floor number)

def ceiling (number : Float) : Except Refusal Float :=
  .ok (Number.ceiling number)

/-- The nearest whole number; a half goes away from zero. -/
def round (number : Float) : Except Refusal Float :=
  .ok (Number.round number)

/-- Multiplies a product by the given number of successive factors, from left to right, until the
product is infinite. -/
def multiplyUp : (factors : Nat) → (factor : Nat) → (product : Float) → Float
  | 0, _, product => product
  | factors + 1, factor, product =>
    if product.isFinite then multiplyUp factors (factor + 1) (product * Float.ofNat factor)
    else product

def factorial (number : Float) : Except Refusal Float :=
  if number < 0 then .error .negativeFactorial
  else if Number.isWhole number then .ok (multiplyUp (Number.wholePart number - 1) 2 1)
  else .error .fractionalFactorial

def environment : Environment :=
  Environment.empty
    |>.withConstant "pi" pi
    |>.withConstant "e" euler
    |>.withUnary "sqrt" squareRoot
    |>.withUnary "sin" sine
    |>.withUnary "cos" cosine
    |>.withUnary "tan" tangent
    |>.withUnary "asin" arcsine
    |>.withUnary "acos" arccosine
    |>.withUnary "atan" arctangent
    |>.withUnary "log" decimalLogarithm
    |>.withBinary "log" logarithm
    |>.withUnary "ln" naturalLogarithm
    |>.withUnary "exp" exponential
    |>.withUnary "abs" absolute
    |>.withUnary "floor" floor
    |>.withUnary "ceil" ceiling
    |>.withUnary "round" round
    |>.withUnary "factorial" factorial
    |>.withUnary "fact" factorial

end Builtin

end Reckoner
