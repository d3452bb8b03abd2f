import Mathlib.Data.Nat.Dist
import Reckoner.Proofs.Number.ReadBack

/-!
# The nearest double

Reading a decimal rounds correctly: no double is nearer to the decimal than the one that is read,
and if another one is as near, the one that is read has the even encoding.  Infinity takes part as
`2 ^ 1024`, the number that would come next; so a decimal is read as infinity from half way between
the greatest double and `2 ^ 1024` on.

Distances are compared after multiplication by the denominator, so everything stays with natural
numbers.  `Number.Nearest` says nothing about how the nearest double is found, and only one double
satisfies it.
-/

namespace Reckoner

namespace Number

/-- The magnitude is nearest to `numerator / denominator` units, and even where another one is as
near. -/
structure Nearest (numerator denominator bits : Nat) : Prop where
  within : bits ≤ infinityBits
  least : ∀ other ≤ infinityBits,
    (unitsOfBits bits * denominator).dist numerator ≤
      (unitsOfBits other * denominator).dist numerator
  even : ∀ other ≤ infinityBits, other ≠ bits →
    (unitsOfBits other * denominator).dist numerator =
      (unitsOfBits bits * denominator).dist numerator → bits % 2 = 0

/-- The two multiples of the denominator around the numerator are less than one denominator away,
all others at least one. -/
theorem dist_multiple (numerator : Nat) {denominator : Nat} (positive : 0 < denominator)
    (count : Nat) :
    count = numerator / denominator ∧
        (count * denominator).dist numerator = numerator % denominator ∨
      count = numerator / denominator + 1 ∧
        (count * denominator).dist numerator = denominator - numerator % denominator ∨
      count ≠ numerator / denominator ∧ count ≠ numerator / denominator + 1 ∧
        denominator ≤ (count * denominator).dist numerator := by
  have parts : numerator / denominator * denominator + numerator % denominator = numerator :=
    Nat.div_add_mod' numerator denominator
  have remainder := Nat.mod_lt numerator positive
  have next : (numerator / denominator + 1) * denominator =
      numerator / denominator * denominator + denominator := Nat.succ_mul _ _
  unfold Nat.dist
  rcases Nat.lt_trichotomy count (numerator / denominator) with below | same | above
  · right; right
    have far : (count + 1) * denominator ≤ numerator / denominator * denominator :=
      Nat.mul_le_mul_right _ below
    rw [Nat.succ_mul] at far
    omega
  · left
    rw [same]
    omega
  · rcases Nat.eq_or_lt_of_le (Nat.succ_le_of_lt above) with same | further
    · right; left
      rw [← same, Nat.succ_eq_add_one, next]
      omega
    · right; right
      have far : (numerator / denominator + 2) * denominator ≤ count * denominator :=
        Nat.mul_le_mul_right _ further
      rw [Nat.add_mul] at far
      omega

theorem roundDiv_cases (numerator denominator : Nat) :
    roundDiv numerator denominator = numerator / denominator ∧
        2 * (numerator % denominator) < denominator ∨
      roundDiv numerator denominator = numerator / denominator + 1 ∧
        denominator < 2 * (numerator % denominator) ∨
      roundDiv numerator denominator % 2 = 0 ∧
        denominator = 2 * (numerator % denominator) := by
  have parity := Nat.mod_two_eq_zero_or_one (numerator / denominator)
  unfold roundDiv
  dsimp only
  split
  · next below => exact .inl ⟨rfl, below⟩
  · split
    · next above => exact .inr (.inl ⟨rfl, above⟩)
    · right; right
      constructor
      · omega
      · omega

/-- No multiple of the denominator is nearer than that of the rounded quotient, which is even where
another one is as near. -/
theorem roundDiv_nearest (numerator : Nat) {denominator : Nat} (positive : 0 < denominator)
    (count : Nat) :
    (roundDiv numerator denominator * denominator).dist numerator ≤
        (count * denominator).dist numerator ∧
      (count ≠ roundDiv numerator denominator →
        (count * denominator).dist numerator =
          (roundDiv numerator denominator * denominator).dist numerator →
        roundDiv numerator denominator % 2 = 0) := by
  have other := dist_multiple numerator positive count
  have rounded := dist_multiple numerator positive (roundDiv numerator denominator)
  have neighbour := roundDiv_eq_or numerator denominator
  have nearer := roundDiv_cases numerator denominator
  have remainder := Nat.mod_lt numerator positive
  omega

section Scale

variable {scale significand otherScale otherSignificand : Nat}

/-- A significand on its scale; rounding may have carried it to the next scale. -/
theorem unitsOfBits_scale (carried : significand ≤ 2 * bitsPerScale)
    (leading : scale = 0 ∨ bitsPerScale ≤ significand) :
    unitsOfBits (scale * bitsPerScale + significand) = significand * Nat.pow 2 scale := by
  have half : 0 < bitsPerScale := by decide
  unfold unitsOfBits
  by_cases least : scale * bitsPerScale + significand < bitsPerScale
  · have zero : scale = 0 := by
      rcases leading with zero | high
      · exact zero
      · omega
    rw [if_pos least, zero, Nat.zero_mul, Nat.zero_add]
    exact (Nat.mul_one significand).symm
  · rw [if_neg least]
    rcases Nat.eq_or_lt_of_le carried with full | fits
    · have whole : scale * bitsPerScale + significand = (scale + 2) * bitsPerScale := by
        rw [full, Nat.add_mul]
      have doubled : Nat.pow 2 (scale + 1) = Nat.pow 2 scale * 2 := rfl
      rw [whole, Nat.mul_mod_left, Nat.mul_div_cancel _ half, full, Nat.add_zero, Nat.add_sub_assoc
        (by decide), doubled, Nat.mul_comm (Nat.pow 2 scale), Nat.mul_left_comm, Nat.mul_assoc]
    · have high : bitsPerScale ≤ significand := by
        rcases leading with zero | high
        · rw [zero] at least
          omega
        · exact high
      have split : scale * bitsPerScale + significand =
          (significand - bitsPerScale) + bitsPerScale * (scale + 1) := by
        rw [Nat.mul_succ, Nat.mul_comm bitsPerScale]
        omega
      have fraction : significand - bitsPerScale < bitsPerScale := by omega
      rw [split, Nat.add_mul_mod_self_left, Nat.mod_eq_of_lt fraction,
        Nat.add_mul_div_left _ _ half, Nat.div_eq_of_lt fraction, Nat.zero_add, Nat.add_sub_cancel,
        Nat.add_sub_cancel' high]

/-- Every magnitude is a significand on a scale. -/
theorem exists_scale (bits : Nat) :
    ∃ scale significand, bits = scale * bitsPerScale + significand ∧
      significand < 2 * bitsPerScale ∧ (scale = 0 ∨ bitsPerScale ≤ significand) ∧
      unitsOfBits bits = significand * Nat.pow 2 scale := by
  have parts := Nat.div_add_mod' bits bitsPerScale
  have fraction : bits % bitsPerScale < bitsPerScale := Nat.mod_lt _ (by decide)
  have found : ∃ scale significand, bits = scale * bitsPerScale + significand ∧
      significand < 2 * bitsPerScale ∧ (scale = 0 ∨ bitsPerScale ≤ significand) := by
    cases high : bits / bitsPerScale with
    | zero =>
        rw [high] at parts
        exact ⟨0, bits % bitsPerScale, parts.symm, by omega, .inl rfl⟩
    | succ scale =>
        rw [high, Nat.succ_mul] at parts
        exact ⟨scale, bitsPerScale + bits % bitsPerScale, by omega, by omega, .inr (by omega)⟩
  obtain ⟨scale, significand, rfl, fits, leading⟩ := found
  exact ⟨scale, significand, rfl, fits, leading, unitsOfBits_scale (Nat.le_of_lt fits) leading⟩

/-- A greater scale has greater numbers. -/
theorem significand_lt (fits : significand < 2 * bitsPerScale)
    (leading : bitsPerScale ≤ otherSignificand) (order : scale < otherScale) :
    significand * Nat.pow 2 scale < otherSignificand * Nat.pow 2 otherScale := by
  have positive : 0 < Nat.pow 2 scale := Nat.pow_pos (by decide)
  calc
    significand * Nat.pow 2 scale < 2 * bitsPerScale * Nat.pow 2 scale :=
      Nat.mul_lt_mul_of_pos_right fits positive
    _ = bitsPerScale * Nat.pow 2 (scale + 1) := by
      have doubled : Nat.pow 2 (scale + 1) = Nat.pow 2 scale * 2 := rfl
      rw [doubled, Nat.mul_comm 2, Nat.mul_assoc, Nat.mul_comm 2]
    _ ≤ otherSignificand * Nat.pow 2 otherScale :=
      Nat.mul_le_mul leading (Nat.pow_le_pow_right (by decide) order)

/-- A greater magnitude stands for a greater number. -/
theorem unitsOfBits_lt {bits other : Nat} (order : bits < other) :
    unitsOfBits bits < unitsOfBits other := by
  obtain ⟨scale, significand, rfl, fits, leading, unitsEq⟩ := exists_scale bits
  obtain ⟨otherScale, otherSignificand, rfl, otherFits, otherLeading, otherUnitsEq⟩ :=
    exists_scale other
  rw [unitsEq, otherUnitsEq]
  rcases Nat.lt_trichotomy scale otherScale with below | same | above
  · exact significand_lt fits (otherLeading.resolve_left (by omega)) below
  · subst same
    exact Nat.mul_lt_mul_of_pos_right (by omega) (Nat.pow_pos (by decide))
  · have high := leading.resolve_left (by omega)
    have steps : (otherScale + 1) * bitsPerScale ≤ scale * bitsPerScale :=
      Nat.mul_le_mul_right _ above
    rw [Nat.succ_mul] at steps
    omega

theorem unitsOfBits_inj {bits other : Nat} (same : unitsOfBits bits = unitsOfBits other) :
    bits = other := by
  rcases Nat.lt_trichotomy bits other with below | equal | above
  · have less := unitsOfBits_lt below
    omega
  · exact equal
  · have less := unitsOfBits_lt above
    omega

end Scale

section Rounding

variable {numerator denominator : Nat}

/-- The scale on which a quotient is rounded leaves it between the least and the greatest
significand. -/
theorem roundDiv_scale (positive : 0 < denominator) {scale : Nat}
    (scaleEq : scale = (numerator / denominator).log2 - 52) :
    roundDiv numerator (denominator * Nat.pow 2 scale) ≤ 2 * bitsPerScale ∧
      (scale = 0 ∨ bitsPerScale ≤ roundDiv numerator (denominator * Nat.pow 2 scale) ∧
        bitsPerScale * (denominator * Nat.pow 2 scale) ≤ numerator) := by
  have powerPositive : 0 < Nat.pow 2 scale := Nat.pow_pos (by decide)
  have gridPositive : 0 < denominator * Nat.pow 2 scale := Nat.mul_pos positive powerPositive
  have neighbour := roundDiv_eq_or numerator (denominator * Nat.pow 2 scale)
  have grid : ∀ exponent, Nat.pow 2 exponent * bitsPerScale = Nat.pow 2 (exponent + 52) :=
    fun exponent => (Nat.pow_add 2 exponent 52).symm
  have upper : numerator / (denominator * Nat.pow 2 scale) < 2 * bitsPerScale := by
    rw [← Nat.div_div_eq_div_mul, Nat.div_lt_iff_lt_mul powerPositive]
    have below : numerator / denominator < Nat.pow 2 ((numerator / denominator).log2 + 1) :=
      Nat.lt_log2_self
    have wide : Nat.pow 2 ((numerator / denominator).log2 + 1) ≤ Nat.pow 2 (scale + 1 + 52) :=
      Nat.pow_le_pow_right (by decide) (by omega)
    have doubled : Nat.pow 2 (scale + 1) = Nat.pow 2 scale * 2 := rfl
    rw [← grid, doubled, Nat.mul_assoc, Nat.mul_comm] at wide
    exact Nat.lt_of_lt_of_le below wide
  refine ⟨by omega, ?_⟩
  by_cases least : scale = 0
  · exact .inl least
  · right
    have nonzero : numerator / denominator ≠ 0 := by
      intro zero
      rw [zero] at scaleEq
      exact least scaleEq
    have above : Nat.pow 2 (numerator / denominator).log2 ≤ numerator / denominator :=
      Nat.log2_self_le nonzero
    have exponent : (numerator / denominator).log2 = scale + 52 := by omega
    rw [exponent, ← grid, Nat.mul_comm] at above
    have reached : bitsPerScale * (denominator * Nat.pow 2 scale) ≤ numerator := by
      rw [Nat.mul_comm denominator, ← Nat.mul_assoc]
      exact (Nat.le_div_iff_mul_le positive).mp above
    have high := (Nat.le_div_iff_mul_le gridPositive).mpr reached
    exact ⟨by omega, reached⟩

/-- Where a quotient lies beyond all doubles, infinity is nearest to it. -/
theorem nearest_infinityBits (beyond : unitsOfBits infinityBits * denominator ≤ numerator)
    (positive : 0 < denominator) : Nearest numerator denominator infinityBits := by
  have below : ∀ other < infinityBits,
      unitsOfBits other * denominator < unitsOfBits infinityBits * denominator :=
    fun other order => Nat.mul_lt_mul_of_pos_right (unitsOfBits_lt order) positive
  refine ⟨Nat.le_refl _, ?_, ?_⟩
  · intro other within
    rcases Nat.eq_or_lt_of_le within with rfl | order
    · exact Nat.le_refl _
    · have less := below other order
      unfold Nat.dist
      omega
  · intro other within different same
    have less := below other (Nat.lt_of_le_of_ne within different)
    unfold Nat.dist at same
    omega

/-- On the scale of a quotient the rounded significand is nearest, also among the numbers of other
scales: those of greater scales are on the same grid, and those of smaller scales lie below the
least significand. -/
theorem nearest_scale (positive : 0 < denominator) {scale bits : Nat}
    (scaleEq : scale = (numerator / denominator).log2 - 52)
    (bitsEq : bits =
      scale * bitsPerScale + roundDiv numerator (denominator * Nat.pow 2 scale))
    (within : bits ≤ infinityBits) : Nearest numerator denominator bits := by
  have gridPositive : 0 < denominator * Nat.pow 2 scale :=
    Nat.mul_pos positive (Nat.pow_pos (by decide))
  obtain ⟨carried, leading⟩ := roundDiv_scale positive scaleEq
  have unitsEq : unitsOfBits bits * denominator =
      roundDiv numerator (denominator * Nat.pow 2 scale) * (denominator * Nat.pow 2 scale) := by
    rw [bitsEq, unitsOfBits_scale carried (leading.imp_right And.left), Nat.mul_assoc,
      Nat.mul_comm denominator]
  have compare : ∀ other, (unitsOfBits bits * denominator).dist numerator ≤
        (unitsOfBits other * denominator).dist numerator ∧
      (other ≠ bits → (unitsOfBits other * denominator).dist numerator =
        (unitsOfBits bits * denominator).dist numerator → bits % 2 = 0) := by
    intro other
    obtain ⟨otherScale, significand, _, fits, _, otherUnitsEq⟩ := exists_scale other
    by_cases order : scale ≤ otherScale
    · have onGrid : unitsOfBits other * denominator =
          significand * Nat.pow 2 (otherScale - scale) * (denominator * Nat.pow 2 scale) := by
        have power : Nat.pow 2 otherScale =
            Nat.pow 2 (otherScale - scale) * Nat.pow 2 scale := by
          have sum := Nat.pow_add 2 (otherScale - scale) scale
          rw [Nat.sub_add_cancel order] at sum
          exact sum
        rw [otherUnitsEq, power, ← Nat.mul_assoc, Nat.mul_assoc _ (Nat.pow 2 scale),
          Nat.mul_comm denominator]
      have nearest := roundDiv_nearest numerator gridPositive
        (significand * Nat.pow 2 (otherScale - scale))
      rw [← onGrid, ← unitsEq] at nearest
      refine ⟨nearest.1, fun different same => ?_⟩
      have even := nearest.2 ?_ same
      · have grid : bitsPerScale % 2 = 0 := by decide
        rw [bitsEq, Nat.add_mod, Nat.mul_mod, grid, even, Nat.mul_zero]
      · intro equal
        apply different
        apply unitsOfBits_inj
        apply Nat.eq_of_mul_eq_mul_right positive
        rw [onGrid, equal, unitsEq]
    · have reached := (leading.resolve_left (by omega)).2
      have less : unitsOfBits other * denominator <
          bitsPerScale * (denominator * Nat.pow 2 scale) := by
        rw [otherUnitsEq, Nat.mul_comm denominator, ← Nat.mul_assoc]
        exact Nat.mul_lt_mul_of_pos_right
          (significand_lt fits (Nat.le_refl _) (Nat.lt_of_not_le order)) positive
      have nearest := (roundDiv_nearest numerator gridPositive bitsPerScale).1
      rw [← unitsEq] at nearest
      unfold Nat.dist at nearest ⊢
      omega
  exact ⟨within, fun other _ => (compare other).1, fun other _ => (compare other).2⟩

/-- The magnitude that is computed for a quotient is nearest to it. -/
theorem nearest_nearestBits (positive : 0 < denominator) :
    Nearest numerator denominator (nearestBits numerator denominator) := by
  unfold nearestBits
  dsimp only
  generalize scaleEq : (numerator / denominator).log2 - 52 = scale
  by_cases order : scale * bitsPerScale +
      roundDiv numerator (denominator * Nat.pow 2 scale) ≤ infinityBits
  · rw [Nat.min_eq_right order]
    exact nearest_scale positive scaleEq.symm rfl order
  · rw [Nat.min_eq_left (Nat.le_of_not_le order)]
    obtain ⟨carried, leading⟩ := roundDiv_scale positive scaleEq.symm
    have high : 2046 ≤ scale := by
      by_contra low
      have steps : scale * bitsPerScale ≤ 2045 * bitsPerScale :=
        Nat.mul_le_mul_right _ (by omega)
      rw [infinityBits_eq] at order
      rw [bitsPerScale_eq] at *
      omega
    have reached := (leading.resolve_left (by omega)).2
    refine nearest_infinityBits ?_ positive
    -- The scale of infinity stays a variable, so that its power of two is never evaluated.
    obtain ⟨last, lastEq⟩ : ∃ last, last = 2046 := ⟨_, rfl⟩
    have whole : infinityBits = last * bitsPerScale + bitsPerScale := by
      rw [lastEq]
      exact Nat.succ_mul 2046 _
    rw [← lastEq] at high
    calc
      unitsOfBits infinityBits * denominator
          = bitsPerScale * (denominator * Nat.pow 2 last) := by
        rw [whole, unitsOfBits_scale (by decide) (.inr (Nat.le_refl _)), Nat.mul_assoc,
          Nat.mul_comm denominator]
      _ ≤ bitsPerScale * (denominator * Nat.pow 2 scale) :=
        Nat.mul_le_mul_left _ (Nat.mul_le_mul_left _ (Nat.pow_le_pow_right (by decide) high))
      _ ≤ numerator := reached

/-- Of two magnitudes that are as near both would be even, and the one between them is nearer. -/
theorem Nearest.unique {bits other : Nat} (nearest : Nearest numerator denominator bits)
    (otherNearest : Nearest numerator denominator other) (positive : 0 < denominator) :
    bits = other := by
  by_contra different
  have apart : ∀ low high, low < high → Nearest numerator denominator low →
      Nearest numerator denominator high → False := by
    intro low high order lowNearest highNearest
    have same := Nat.le_antisymm (lowNearest.least high highNearest.within)
      (highNearest.least low lowNearest.within)
    have lowEven := lowNearest.even high highNearest.within (by omega) same.symm
    have highEven := highNearest.even low lowNearest.within (by omega) same
    have nearer := lowNearest.least (low + 1) (Nat.le_trans order highNearest.within)
    have above := Nat.mul_lt_mul_of_pos_right (unitsOfBits_lt (Nat.lt_add_one low)) positive
    have below := Nat.mul_lt_mul_of_pos_right
      (unitsOfBits_lt (show low + 1 < high by omega)) positive
    unfold Nat.dist at same nearer
    omega
  rcases Nat.lt_or_gt_of_ne different with order | order
  · exact apart bits other order nearest otherNearest
  · exact apart other bits order otherNearest nearest

end Rounding

end Number

namespace Decimal

/-- The value is the double nearest to the decimal, without a sign. -/
def RoundsTo (decimal : Decimal) (value : Float) : Prop :=
  ∃ bits, value = Number.ofMagnitudeBits false bits ∧
    Number.Nearest (decimal.digits * Number.unitsPerOne) (Nat.pow 10 decimal.places) bits

theorem roundsTo_iff {decimal : Decimal} {value : Float} :
    decimal.RoundsTo value ↔ value = decimal.toFloat false := by
  have positive : 0 < Nat.pow 10 decimal.places := Nat.pow_pos (by decide)
  constructor
  · rintro ⟨bits, rfl, nearest⟩
    exact congrArg (Number.ofMagnitudeBits false)
      (nearest.unique (Number.nearest_nearestBits positive) positive)
  · rintro rfl
    exact ⟨_, rfl, Number.nearest_nearestBits positive⟩

end Decimal

end Reckoner
