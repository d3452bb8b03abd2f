import Mathlib.Algebra.Order.Field.Power
import Mathlib.Algebra.Order.Ring.Rat
import Mathlib.Algebra.Field.Rat
import Mathlib.Tactic.FieldSimp
import Mathlib.Tactic.Linarith
import Mathlib.Tactic.Positivity
import Mathlib.Tactic.Ring
import Reckoner.Proofs.Number.Digits

/-!
# Nearest multiples

What a rounded result has to be, in terms of exact values.  `Number.NearestMultiple` says that a
whole number of steps is nearest to a number, and even where another one is as near;
`Number.NearestSignificand` says the same of a significand with a power of ten among all numbers
with as many digits.  Neither says how the nearest one is found.

The rounded quotient is a nearest multiple (`nearestMultiple_roundDiv`), and a nearest multiple of
the unit of the last digit is a nearest significand (`NearestMultiple.significand`): the numbers
with a greater power of ten are multiples of that unit too, and those with a smaller one are below
the leading power of ten, which is a multiple itself.
-/

namespace Reckoner

namespace Number

/-! ## Exact values -/

def signed {Quantity : Type} [Neg Quantity] (negative : Bool) (quantity : Quantity) : Quantity :=
  if negative then -quantity else quantity

/-- The exact absolute value of a finite double. -/
def magnitude (number : Float) : ℚ :=
  units number / unitsPerOne

/-- The exact value of a finite double. -/
def value (number : Float) : ℚ :=
  signed (isNegative number) (magnitude number)

theorem cast_signed (negative : Bool) (count : ℤ) :
    ((signed negative count : ℤ) : ℚ) = signed negative (count : ℚ) := by
  cases negative with
  | false => rfl
  | true => exact Int.cast_neg count

theorem signed_mul (negative : Bool) (quantity factor : ℚ) :
    signed negative quantity * factor = signed negative (quantity * factor) := by
  cases negative with
  | false => rfl
  | true => exact neg_mul quantity factor

theorem signed_inj {negative : Bool} {quantity other : ℚ} :
    signed negative quantity = signed negative other ↔ quantity = other := by
  cases negative with
  | false => exact Iff.rfl
  | true => exact neg_inj

theorem abs_signed (negative : Bool) (quantity : ℚ) : |signed negative quantity| = |quantity| := by
  cases negative with
  | false => rfl
  | true => exact abs_neg quantity

theorem magnitude_nonneg (number : Float) : 0 ≤ magnitude number :=
  div_nonneg (Nat.cast_nonneg _) (Nat.cast_nonneg _)

theorem abs_value (number : Float) : |value number| = magnitude number := by
  rw [value, abs_signed, abs_of_nonneg (magnitude_nonneg number)]

section Multiples

variable {step number : ℚ} {count other : ℤ} {numerator denominator : Nat}

/-- A whole number of steps that is nearest to a number, and even where another one is as near. -/
structure NearestMultiple (step number : ℚ) (count : ℤ) : Prop where
  nearest : ∀ other : ℤ, |count * step - number| ≤ |other * step - number|
  even : ∀ other : ℤ, other ≠ count →
    |other * step - number| = |count * step - number| → Even count

theorem distance_neg (quantity number : ℚ) : |-quantity - -number| = |quantity - number| := by
  rw [← abs_neg (quantity - number)]
  congr 1
  ring

theorem NearestMultiple.neg (nearest : NearestMultiple step number count) :
    NearestMultiple step (-number) (-count) := by
  have mirrored (other : ℤ) : |((-other : ℤ) : ℚ) * step - -number| = |other * step - number| := by
    rw [Int.cast_neg, neg_mul, distance_neg]
  constructor
  · intro other
    rw [mirrored, ← Int.neg_neg other, mirrored]
    exact nearest.nearest _
  · intro other different same
    rw [mirrored, ← Int.neg_neg other, mirrored] at same
    have unequal : -other ≠ count := fun equal => different (equal ▸ (Int.neg_neg other).symm)
    exact (nearest.even _ unequal same).neg

theorem NearestMultiple.signed (negative : Bool) (nearest : NearestMultiple step number count) :
    NearestMultiple step (signed negative number) (signed negative count) := by
  cases negative with
  | false => exact nearest
  | true => exact nearest.neg

/-- If two counts were nearest, both would be even, and the number half way between them would be
a multiple itself. -/
theorem NearestMultiple.unique (positive : 0 < step) (nearest : NearestMultiple step number count)
    (otherNearest : NearestMultiple step number other) : count = other := by
  by_contra different
  have same := le_antisymm (nearest.nearest other) (otherNearest.nearest count)
  obtain ⟨half, halfEq⟩ := nearest.even other (Ne.symm different) same.symm
  obtain ⟨otherHalf, otherHalfEq⟩ := otherNearest.even count different same
  have middle : number = ((half + otherHalf : ℤ) : ℚ) * step := by
    rcases abs_eq_abs.mp same with equal | opposite
    · have steps : (count : ℚ) * step = other * step := by linarith
      exact absurd (Int.cast_injective (mul_right_cancel₀ positive.ne' steps)) different
    · rw [halfEq, otherHalfEq] at opposite
      push_cast at opposite ⊢
      linarith
  have exact := nearest.nearest (half + otherHalf)
  rw [← middle, sub_self, abs_zero, abs_nonpos_iff, sub_eq_zero, middle] at exact
  have sum : count = half + otherHalf :=
    Int.cast_injective (mul_right_cancel₀ positive.ne' exact)
  omega

theorem cast_dist (left right : Nat) : (left.dist right : ℚ) = |(left : ℚ) - right| := by
  unfold Nat.dist
  rcases Nat.le_total left right with below | above
  · have order : (left : ℚ) ≤ right := Nat.cast_le.mpr below
    rw [Nat.sub_eq_zero_of_le below, Nat.zero_add, Nat.cast_sub below, abs_sub_comm,
      abs_of_nonneg (sub_nonneg.mpr order)]
  · have order : (right : ℚ) ≤ left := Nat.cast_le.mpr above
    rw [Nat.sub_eq_zero_of_le above, Nat.add_zero, Nat.cast_sub above,
      abs_of_nonneg (sub_nonneg.mpr order)]

section Units

variable {unit : ℚ} (unitPositive : 0 < unit)

include unitPositive in
/-- A distance of multiples, with numerator and denominator measured in one unit. -/
theorem distance_natCast (numerator denominator count : Nat) :
    |((count : ℤ) : ℚ) * (denominator * unit) - numerator * unit| =
      ((count * denominator).dist numerator : ℚ) * unit := by
  rw [cast_dist, ← abs_of_pos unitPositive, ← abs_mul, abs_of_pos unitPositive]
  congr 1
  push_cast
  ring

include unitPositive in
/-- A negative count is farther away than the count zero. -/
theorem distance_zero_lt (numerator : Nat) (positive : 0 < denominator) (count : Nat) :
    |((0 : ℤ) : ℚ) * (denominator * unit) - numerator * unit| <
      |((Int.negSucc count : ℤ) : ℚ) * (denominator * unit) - numerator * unit| := by
  have stepPositive : 0 < (denominator : ℚ) * unit :=
    mul_pos (Nat.cast_pos.mpr positive) unitPositive
  have numberNonneg : 0 ≤ (numerator : ℚ) * unit := mul_nonneg (Nat.cast_nonneg _) unitPositive.le
  have farther : 0 < ((count : ℚ) + 1) * (denominator * unit) :=
    mul_pos (by positivity) stepPositive
  rw [Int.cast_negSucc, Int.cast_zero, zero_mul, zero_sub, abs_neg, abs_of_nonneg numberNonneg,
    abs_sub_comm, abs_of_nonneg] <;>
  push_cast <;>
  linarith

include unitPositive in
theorem nearestMultiple_units (numerator : Nat) (positive : 0 < denominator) :
    NearestMultiple (denominator * unit) (numerator * unit) (roundDiv numerator denominator) := by
  have distance := distance_natCast unitPositive numerator denominator
  have negative := distance_zero_lt unitPositive numerator positive
  have nearest (other : Nat) :
      |((roundDiv numerator denominator : ℤ) : ℚ) * (denominator * unit) - numerator * unit| ≤
        |((other : ℤ) : ℚ) * (denominator * unit) - numerator * unit| := by
    rw [distance, distance]
    exact mul_le_mul_of_nonneg_right
      (Nat.cast_le.mpr (roundDiv_nearest numerator positive other).1) unitPositive.le
  constructor
  · intro other
    cases other with
    | ofNat other => exact nearest other
    | negSucc other => exact (nearest 0).trans (negative other).le
  · intro other different same
    cases other with
    | ofNat other =>
        rw [Int.ofNat_eq_natCast, distance, distance] at same
        have distances := Nat.cast_injective (mul_right_cancel₀ unitPositive.ne' same)
        have unequal : other ≠ roundDiv numerator denominator :=
          fun equal => different (congrArg Int.ofNat equal)
        have even := (roundDiv_nearest numerator positive other).2 unequal distances
        exact (Int.even_coe_nat _).mpr (Nat.even_iff.mpr even)
    | negSucc other =>
        exact absurd (same.trans_le (nearest 0)) (negative other).not_ge

end Units

/-- The rounded quotient is the nearest multiple of a step, when the number is that quotient of
steps. -/
theorem nearestMultiple_roundDiv (positive : 0 < denominator) (stepPositive : 0 < step)
    (exact : number * denominator = numerator * step) :
    NearestMultiple step number (roundDiv numerator denominator) := by
  have nonzero : (denominator : ℚ) ≠ 0 := Nat.cast_ne_zero.mpr positive.ne'
  have unitPositive : 0 < step / denominator := div_pos stepPositive (Nat.cast_pos.mpr positive)
  have nearest := nearestMultiple_units unitPositive numerator positive
  rw [mul_div_cancel₀ step nonzero, mul_div_assoc', ← exact, mul_div_cancel_right₀ number nonzero]
    at nearest
  exact nearest

end Multiples

section Significands

variable {number : ℚ} {places : Nat} {exponent count : ℤ}

/-- A significand with `places` digits behind its first, and a power of ten.  Their product is
nearest to a number among all products of a power of ten with at most as many digits, and the
significand is even where another product is as near. -/
structure NearestSignificand (places : Nat) (number : ℚ) (significand exponent : ℤ) : Prop where
  leading : 10 ^ places ≤ |significand| ∧ |significand| < 10 ^ (places + 1)
  nearest : ∀ other otherExponent : ℤ, |other| < 10 ^ (places + 1) →
    |significand * (10 : ℚ) ^ (exponent - places) - number| ≤
      |other * (10 : ℚ) ^ (otherExponent - places) - number|
  even : ∀ other otherExponent : ℤ, |other| < 10 ^ (places + 1) →
    other * (10 : ℚ) ^ (otherExponent - places) ≠ significand * (10 : ℚ) ^ (exponent - places) →
    |other * (10 : ℚ) ^ (otherExponent - places) - number| =
      |significand * (10 : ℚ) ^ (exponent - places) - number| → Even significand

theorem NearestSignificand.neg {significand : ℤ}
    (nearest : NearestSignificand places number significand exponent) :
    NearestSignificand places (-number) (-significand) exponent := by
  have mirrored (other otherExponent : ℤ) :
      |((-other : ℤ) : ℚ) * (10 : ℚ) ^ (otherExponent - places) - -number| =
        |other * (10 : ℚ) ^ (otherExponent - places) - number| := by
    rw [Int.cast_neg, neg_mul, distance_neg]
  constructor
  · rw [abs_neg]
    exact nearest.leading
  · intro other otherExponent few
    rw [mirrored, ← Int.neg_neg other, mirrored]
    exact nearest.nearest _ _ (by rwa [abs_neg])
  · intro other otherExponent few different same
    rw [mirrored, ← Int.neg_neg other, mirrored] at same
    refine (nearest.even _ _ (by rwa [abs_neg]) ?_ same).neg
    intro equal
    apply different
    rw [Int.cast_neg, neg_mul, ← equal, Int.cast_neg, neg_mul, Rat.neg_neg]

theorem NearestSignificand.signed {significand : ℤ} (negative : Bool)
    (nearest : NearestSignificand places number significand exponent) :
    NearestSignificand places (signed negative number) (signed negative significand) exponent := by
  cases negative with
  | false => exact nearest
  | true => exact nearest.neg

/-- A number with fewer digits than the power of ten, on a finer grid, stays below that power. -/
theorem lt_leading {other otherExponent : ℤ} (few : |other| < 10 ^ (places + 1))
    (finer : otherExponent < exponent) :
    (other : ℚ) * (10 : ℚ) ^ (otherExponent - places) < (10 : ℚ) ^ exponent := by
  have bound : (other : ℚ) < (10 : ℚ) ^ (places + 1) := by
    exact_mod_cast (le_abs_self other).trans_lt few
  calc
    (other : ℚ) * (10 : ℚ) ^ (otherExponent - places)
      < (10 : ℚ) ^ (places + 1) * (10 : ℚ) ^ (otherExponent - places) :=
        mul_lt_mul_of_pos_right bound (by positivity)
    _ = (10 : ℚ) ^ (otherExponent + 1) := by
      rw [← zpow_natCast, ← zpow_add₀ (by norm_num)]
      congr 1
      push_cast
      ring
    _ ≤ (10 : ℚ) ^ exponent := zpow_le_zpow_right₀ (by norm_num) (by omega)

/-- On a coarser grid all numbers are multiples of the finer step. -/
theorem exists_multiple (places : Nat) (other : ℤ) {otherExponent : ℤ}
    (coarser : exponent ≤ otherExponent) :
    ∃ multiple : ℤ, (other : ℚ) * (10 : ℚ) ^ (otherExponent - places) =
      multiple * (10 : ℚ) ^ (exponent - places) := by
  obtain ⟨steps, rfl⟩ := Int.le.dest coarser
  refine ⟨other * 10 ^ steps, ?_⟩
  push_cast
  rw [mul_assoc, ← zpow_natCast, ← zpow_add₀ (by norm_num)]
  congr 2
  ring

section Leading

variable (leading : (10 : ℚ) ^ exponent ≤ number) (below : number < (10 : ℚ) ^ (exponent + 1))
  (nearest : NearestMultiple ((10 : ℚ) ^ (exponent - places)) number count)

/-- The leading power of ten, as a multiple of the last digit's unit. -/
theorem leading_multiple (places : Nat) (exponent : ℤ) :
    ((10 ^ places : ℤ) : ℚ) * (10 : ℚ) ^ (exponent - places) = (10 : ℚ) ^ exponent := by
  push_cast
  rw [← zpow_natCast, ← zpow_add₀ (by norm_num)]
  congr 1
  ring

include leading nearest in
theorem NearestMultiple.leading_le : 10 ^ places ≤ count := by
  by_contra small
  have step : (0 : ℚ) < (10 : ℚ) ^ (exponent - places) := by positivity
  have lower : (count : ℚ) * (10 : ℚ) ^ (exponent - places) < (10 : ℚ) ^ exponent := by
    rw [← leading_multiple places exponent]
    exact mul_lt_mul_of_pos_right (Int.cast_lt.mpr (not_le.mp small)) step
  have nearer := nearest.nearest (10 ^ places)
  rw [leading_multiple, abs_sub_comm, abs_of_nonneg (by linarith), abs_sub_comm,
    abs_of_nonneg (by linarith)] at nearer
  linarith

include below nearest in
theorem NearestMultiple.le_carried : count ≤ 10 ^ (places + 1) := by
  by_contra great
  have step : (0 : ℚ) < (10 : ℚ) ^ (exponent - places) := by positivity
  have carried : ((10 ^ (places + 1) : ℤ) : ℚ) * (10 : ℚ) ^ (exponent - places) =
      (10 : ℚ) ^ (exponent + 1) := by
    rw [← leading_multiple (places + 1) (exponent + 1)]
    congr 2
    push_cast
    ring
  have upper : (10 : ℚ) ^ (exponent + 1) < count * (10 : ℚ) ^ (exponent - places) := by
    rw [← carried]
    exact mul_lt_mul_of_pos_right (Int.cast_lt.mpr (not_le.mp great)) step
  have nearer := nearest.nearest (10 ^ (places + 1))
  rw [carried, abs_of_nonneg (by linarith), abs_of_nonneg (by linarith)] at nearer
  linarith

include leading nearest in
/-- Numbers with few digits are multiples of the last digit's unit, or are farther away than the
leading power of ten. -/
theorem NearestMultiple.among_significands {other otherExponent : ℤ}
    (few : |other| < 10 ^ (places + 1)) :
    |count * (10 : ℚ) ^ (exponent - places) - number| ≤
        |other * (10 : ℚ) ^ (otherExponent - places) - number| ∧
      (other * (10 : ℚ) ^ (otherExponent - places) ≠ count * (10 : ℚ) ^ (exponent - places) →
        |other * (10 : ℚ) ^ (otherExponent - places) - number| =
          |count * (10 : ℚ) ^ (exponent - places) - number| → Even count) := by
  rcases le_or_gt exponent otherExponent with coarser | finer
  · obtain ⟨multiple, multipleEq⟩ := exists_multiple places other coarser
    rw [multipleEq]
    refine ⟨nearest.nearest multiple, fun different same => nearest.even multiple ?_ same⟩
    rintro rfl
    exact different rfl
  · have lower := lt_leading few finer
    have nearer := nearest.nearest (10 ^ places)
    have farther : |count * (10 : ℚ) ^ (exponent - places) - number| <
        |other * (10 : ℚ) ^ (otherExponent - places) - number| := by
      rw [leading_multiple, abs_sub_comm ((10 : ℚ) ^ exponent),
        abs_of_nonneg (sub_nonneg.mpr leading)] at nearer
      calc
        |count * (10 : ℚ) ^ (exponent - places) - number| ≤ number - (10 : ℚ) ^ exponent := nearer
        _ < number - other * (10 : ℚ) ^ (otherExponent - places) := sub_lt_sub_left lower number
        _ ≤ |other * (10 : ℚ) ^ (otherExponent - places) - number| := by
          rw [abs_sub_comm]
          exact le_abs_self _
    exact ⟨farther.le, fun _ same => absurd same farther.ne'⟩

include leading below nearest in
theorem NearestMultiple.significand (fits : count ≠ 10 ^ (places + 1)) :
    NearestSignificand places number count exponent := by
  have lower := nearest.leading_le leading
  have upper := nearest.le_carried below
  have positive : 0 < count := lt_of_lt_of_le (by positivity) lower
  constructor
  · rw [abs_of_pos positive]
    exact ⟨lower, lt_of_le_of_ne upper fits⟩
  · exact fun other otherExponent few => (nearest.among_significands leading few).1
  · exact fun other otherExponent few => (nearest.among_significands leading few).2

include leading in
/-- A significand that was rounded up to the next power of ten is that power of ten. -/
theorem NearestMultiple.carry (shown : 0 < places)
    (nearest : NearestMultiple ((10 : ℚ) ^ (exponent - places)) number (10 ^ (places + 1))) :
    NearestSignificand places number (10 ^ places) (exponent + 1) := by
  have carried : ((10 ^ places : ℤ) : ℚ) * (10 : ℚ) ^ (exponent + 1 - places) =
      ((10 ^ (places + 1) : ℤ) : ℚ) * (10 : ℚ) ^ (exponent - places) := by
    rw [add_sub_right_comm, zpow_add₀ (by norm_num), zpow_one]
    push_cast
    ring
  have even : Even (10 ^ places : ℤ) := (by decide : Even (10 : ℤ)).pow_of_ne_zero shown.ne'
  constructor
  · rw [abs_of_pos (by positivity)]
    exact ⟨le_rfl, pow_lt_pow_right₀ (by norm_num) (Nat.lt_succ_self places)⟩
  · intro other otherExponent few
    rw [carried]
    exact (nearest.among_significands leading few).1
  · exact fun _ _ _ _ _ => even

end Leading

end Significands

/-! ## Rounded results -/

section Results

variable {number : Float} {count : Nat} {exponent : Int}

theorem cast_power (base exponent : Nat) :
    ((Nat.pow base exponent : Nat) : ℚ) = (base : ℚ) ^ exponent :=
  Nat.cast_pow base exponent

theorem cast_unitsPerOne : (unitsPerOne : ℚ) = (2 : ℚ) ^ finestPlaces := by
  rw [unitsPerOne_eq, cast_power, Nat.cast_ofNat]

theorem cast_unitsPerOne_pos : (0 : ℚ) < unitsPerOne :=
  Nat.cast_pos.mpr unitsPerOne_pos

/-- On the finest grid, the value of a double is a whole number. -/
theorem magnitude_eq (number : Float) :
    magnitude number = onFinestGrid (units number) / (10 : ℚ) ^ finestPlaces := by
  rw [magnitude, cast_unitsPerOne, onFinestGrid, Nat.cast_mul, cast_power, Nat.cast_ofNat]
  generalize finestPlaces = finest
  have tens : (10 : ℚ) ^ finest = (2 : ℚ) ^ finest * (5 : ℚ) ^ finest := by
    rw [← mul_pow]
    norm_num
  rw [tens]
  field_simp

theorem nearestMultiple_places {denominator : Nat} (positive : 0 < denominator)
    (places count : Nat) :
    NearestMultiple (1 / 10 ^ places) (count / denominator)
      (roundDiv (count * Nat.pow 10 places) denominator) := by
  have castPositive : (0 : ℚ) < denominator := Nat.cast_pos.mpr positive
  refine nearestMultiple_roundDiv positive (by positivity) ?_
  rw [Nat.cast_mul, cast_power, Nat.cast_ofNat]
  field_simp

/-- The multiple of the last place that is shown is the nearest one. -/
theorem nearestMultiple_roundToPlaces (places : Nat) (number : Float) :
    NearestMultiple (1 / 10 ^ places) (magnitude number)
      (roundToPlaces places (units number)).digits := by
  have positive := unitsPerOne_pos
  rw [magnitude, roundToPlaces]
  generalize unitsPerOne = perOne at *
  exact nearestMultiple_places positive places (units number)

/-- The quotient that is rounded to a significand. -/
theorem scaledDown_exact (count : Nat) (exponent : Int) :
    (count : ℚ) / unitsPerOne * (scaledDown count exponent).2 =
      (scaledDown count exponent).1 * (10 : ℚ) ^ exponent := by
  have ones := cast_unitsPerOne_pos
  cases exponent with
  | ofNat exponent =>
      rw [scaledDown]
      dsimp only
      rw [Nat.cast_mul, cast_power, Nat.cast_ofNat, Int.ofNat_eq_natCast, zpow_natCast]
      generalize (unitsPerOne : ℚ) = perOne at *
      field_simp
  | negSucc exponent =>
      rw [scaledDown]
      dsimp only
      rw [Nat.cast_mul, cast_power, Nat.cast_ofNat, zpow_negSucc]
      generalize (unitsPerOne : ℚ) = perOne at *
      field_simp

theorem decimalExponent_le {bits number : Nat} (positive : 0 < number) :
    Nat.pow 10 (decimalExponent bits number) ≤ number := by
  induction bits generalizing number with
  | zero => exact positive
  | succ bits induction =>
      rw [decimalExponent]
      split
      · next high =>
          have powerPositive : 0 < Nat.pow 10 (Nat.pow 2 bits) := Nat.pow_pos (by decide)
          have rest := induction (Nat.div_pos high powerPositive)
          calc
            Nat.pow 10 (Nat.pow 2 bits +
                decimalExponent bits (number / Nat.pow 10 (Nat.pow 2 bits)))
              = Nat.pow 10 (Nat.pow 2 bits) *
                  Nat.pow 10 (decimalExponent bits (number / Nat.pow 10 (Nat.pow 2 bits))) :=
                Nat.pow_add 10 _ _
            _ ≤ Nat.pow 10 (Nat.pow 2 bits) * (number / Nat.pow 10 (Nat.pow 2 bits)) :=
                Nat.mul_le_mul_left _ rest
            _ ≤ number := Nat.mul_div_le number _
      · exact induction positive

/-- The leading digit of a double stands at the power of ten that was found. -/
theorem leadingExponent_bounds (finite : number.isFinite = true) (positive : 0 < units number) :
    (10 : ℚ) ^ leadingExponent (units number) ≤ magnitude number ∧
      magnitude number < (10 : ℚ) ^ (leadingExponent (units number) + 1) := by
  have gridPositive : 0 < onFinestGrid (units number) := by
    rw [onFinestGrid]
    generalize finestPlaces = finest
    exact Nat.mul_pos positive (Nat.pow_pos (by decide))
  have lower : Nat.pow 10 (leadingPlace (units number)) ≤ onFinestGrid (units number) :=
    decimalExponent_le gridPositive
  have upper := lt_leadingPlace (onFinestGrid_lt finite)
  rw [magnitude_eq, leadingExponent, Int.ofNat_eq_natCast]
  generalize leadingPlace (units number) = place at *
  generalize finestPlaces = finest at *
  generalize onFinestGrid (units number) = grid at *
  have castLower : (10 : ℚ) ^ place ≤ grid := by exact_mod_cast lower
  have castUpper : (grid : ℚ) < (10 : ℚ) ^ (place + 1) := by exact_mod_cast upper
  have finestPositive : (0 : ℚ) < (10 : ℚ) ^ finest := by positivity
  constructor
  · rw [zpow_sub₀ (by norm_num), zpow_natCast, zpow_natCast]
    exact div_le_div_of_nonneg_right castLower finestPositive.le
  · rw [sub_add_eq_add_sub, zpow_sub₀ (by norm_num), zpow_natCast, ← Nat.cast_succ, zpow_natCast]
    exact div_lt_div_of_pos_right castUpper finestPositive

/-- The significand with the power of ten of the leading digit, carried or not. -/
theorem nearestSignificand_significandAt {places : Nat} {quantity : ℚ} (shown : 0 < places)
    (leading : (10 : ℚ) ^ exponent ≤ quantity) (below : quantity < (10 : ℚ) ^ (exponent + 1))
    (exact : quantity * (scaledDown count (exponent - places)).2 =
      (scaledDown count (exponent - places)).1 * (10 : ℚ) ^ (exponent - places)) :
    NearestSignificand places quantity (significandAt places count exponent).1
      (significandAt places count exponent).2 := by
  have nearest := nearestMultiple_roundDiv (scaledDown_pos count (exponent - places))
    (by positivity) exact
  have cast_ten (exponent : Nat) : ((Nat.pow 10 exponent : Nat) : ℤ) = 10 ^ exponent :=
    Nat.cast_pow 10 exponent
  rw [significandAt]
  dsimp only
  generalize roundDiv (scaledDown count (exponent - places)).1
    (scaledDown count (exponent - places)).2 = digits at *
  split
  · next full =>
      rw [full, cast_ten] at nearest
      dsimp only
      rw [cast_ten]
      exact NearestMultiple.carry leading shown nearest
  · next fits =>
      refine NearestMultiple.significand leading below nearest ?_
      rw [← cast_ten, Ne, Nat.cast_inj]
      exact fits

/-- The significand and the power of ten that are shown are nearest. -/
theorem nearestSignificand_significand {places : Nat} (shown : 0 < places)
    (finite : number.isFinite = true) (positive : 0 < units number) :
    NearestSignificand places (magnitude number) (significand places (units number)).1
      (significand places (units number)).2 := by
  obtain ⟨leading, below⟩ := leadingExponent_bounds finite positive
  have exact := scaledDown_exact (units number) (leadingExponent (units number) - places)
  rw [← magnitude] at exact
  rw [significand]
  exact nearestSignificand_significandAt shown leading below exact

end Results

end Number

end Reckoner
