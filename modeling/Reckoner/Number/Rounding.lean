/-!
# Rounding a quotient

A quotient of natural numbers, rounded to the nearest natural number; a quotient that lies half
way between two of them goes to the even one.  Every place where the calculator gives up digits
uses this one rule: reading a decimal as a double, and writing a double with a fixed number of
digits.
-/

namespace Reckoner

namespace Number

/-- The natural number nearest to `numerator / denominator`, an exact half going to the even
neighbour. -/
def roundDiv (numerator denominator : Nat) : Nat :=
  let quotient := numerator / denominator
  let twice := 2 * (numerator % denominator)
  if twice < denominator then quotient
  else if denominator < twice then quotient + 1
  else quotient + quotient % 2

/-- A quotient without remainder is its own nearest number. -/
theorem roundDiv_mul_left (quotient : Nat) {denominator : Nat} (positive : 0 < denominator) :
    roundDiv (quotient * denominator) denominator = quotient := by
  simp [roundDiv, Nat.mul_div_cancel _ positive, positive]

theorem roundDiv_eq_or (numerator denominator : Nat) :
    roundDiv numerator denominator = numerator / denominator ∨
      roundDiv numerator denominator = numerator / denominator + 1 := by
  unfold roundDiv
  have parity := Nat.mod_two_eq_zero_or_one (numerator / denominator)
  dsimp only
  split
  · exact .inl rfl
  · split
    · exact .inr rfl
    · rcases parity with even | odd <;> simp [*]

end Number

end Reckoner
