import Reckoner.Number.Places
import Reckoner.Proofs.Number.Nearest
import Reckoner.Proofs.Number.ReadBack

/-!
# How long results are

A result is written in few characters, whatever double it is (`length_resultText`).  Where no power
of ten is written, it has at most ten digits in front of the point, or is the power of ten at which
the other form begins.  Where one is written, there is one digit in front of the point, since the
leading digit was found (`lt_decimalExponent`), and the power of ten has few digits, since the
search for it is short (`decimalExponent_lt`).
-/

namespace Reckoner

namespace Number

variable {number : Float} {numerator denominator bound count places : Nat}

theorem roundDiv_le (positive : 0 < denominator) (fits : numerator ≤ bound * denominator) :
    roundDiv numerator denominator ≤ bound := by
  rcases Nat.eq_or_lt_of_le fits with rfl | below
  · rw [roundDiv_mul_left bound positive]
  · have quotient : numerator / denominator < bound :=
      (Nat.div_lt_iff_lt_mul positive).mpr below
    rcases roundDiv_eq_or numerator denominator with lower | upper <;> omega

/-! ## The leading digit -/

theorem decimalExponent_lt (bits number : Nat) : decimalExponent bits number < Nat.pow 2 bits := by
  induction bits generalizing number with
  | zero => exact Nat.one_pos
  | succ bits induction =>
      have doubled : Nat.pow 2 (bits + 1) = Nat.pow 2 bits * 2 := rfl
      rw [decimalExponent]
      split
      · have rest := induction (number / Nat.pow 10 (Nat.pow 2 bits))
        omega
      · have all := induction number
        omega

/-- A number that is small enough to be searched is below the next power of ten. -/
theorem lt_decimalExponent {bits number : Nat} (small : number < Nat.pow 10 (Nat.pow 2 bits)) :
    number < Nat.pow 10 (decimalExponent bits number + 1) := by
  induction bits generalizing number with
  | zero => exact small
  | succ bits induction =>
      have positive : 0 < Nat.pow 10 (Nat.pow 2 bits) := Nat.pow_pos (by decide)
      have squared : Nat.pow 10 (Nat.pow 2 (bits + 1)) =
          Nat.pow 10 (Nat.pow 2 bits) * Nat.pow 10 (Nat.pow 2 bits) := by
        have doubled : Nat.pow 2 (bits + 1) = Nat.pow 2 bits + Nat.pow 2 bits := Nat.mul_two _
        rw [doubled]
        exact Nat.pow_add 10 _ _
      rw [decimalExponent]
      split
      · have rest : number / Nat.pow 10 (Nat.pow 2 bits) < Nat.pow 10 (Nat.pow 2 bits) := by
          rw [squared] at small
          exact (Nat.div_lt_iff_lt_mul positive).mpr small
        have leading := (Nat.div_lt_iff_lt_mul positive).mp (induction rest)
        have joined (exponent : Nat) :
            Nat.pow 10 (exponent + 1) * Nat.pow 10 (Nat.pow 2 bits) =
              Nat.pow 10 (Nat.pow 2 bits + exponent + 1) := by
          rw [Nat.mul_comm, Nat.add_assoc]
          exact (Nat.pow_add 10 _ _).symm
        rw [joined] at leading
        exact leading
      · next below => exact induction (Nat.lt_of_not_le below)

theorem onFinestGrid_lt (finite : number.isFinite = true) :
    onFinestGrid (units number) < Nat.pow 10 (Nat.pow 2 11) := by
  have below : units number < unitsOfBits infinityBits := unitsOfBits_lt (isFinite_iff.mp finite)
  have greatest : onFinestGrid (unitsOfBits infinityBits) < Nat.pow 10 (Nat.pow 2 11) := by
    decide +kernel
  have grid : onFinestGrid (units number) ≤ onFinestGrid (unitsOfBits infinityBits) :=
    Nat.mul_le_mul_right _ (Nat.le_of_lt below)
  exact Nat.lt_of_le_of_lt grid greatest

theorem onFinestGrid_unitsPerOne : onFinestGrid unitsPerOne = Nat.pow 10 finestPlaces := by
  rw [onFinestGrid, unitsPerOne_eq, Nat.mul_comm]
  exact pow_five_mul_pow_two finestPlaces

/-- With all powers of ten on one side, the powers of five cancel. -/
theorem lt_of_onFinestGrid_lt {other : Nat} (below : onFinestGrid count < onFinestGrid other) :
    count < other :=
  Nat.lt_of_mul_lt_mul_right below

theorem onFinestGrid_mul (left right : Nat) :
    onFinestGrid (left * right) = left * onFinestGrid right :=
  Nat.mul_assoc left right _

theorem onFinestGrid_ones (power : Nat) :
    onFinestGrid (Nat.pow 10 power * unitsPerOne) = Nat.pow 10 (power + finestPlaces) := by
  rw [onFinestGrid_mul, onFinestGrid_unitsPerOne]
  generalize finestPlaces = finest
  exact (Nat.pow_add 10 power finest).symm

/-- A number of units below a power of ten, divided by another power of ten. -/
theorem scaledDown_lt {exponent : Int} {digits power : Nat}
    (below : onFinestGrid count < Nat.pow 10 power)
    (place : exponent + finestPlaces + digits = power) :
    (scaledDown count exponent).1 < Nat.pow 10 digits * (scaledDown count exponent).2 := by
  apply lt_of_onFinestGrid_lt
  cases exponent with
  | ofNat exponent =>
      have sum : power = digits + exponent + finestPlaces := by
        rw [Int.ofNat_eq_natCast] at place
        omega
      rw [scaledDown]
      dsimp only
      calc
        onFinestGrid count < Nat.pow 10 (digits + exponent + finestPlaces) := sum ▸ below
        _ = onFinestGrid (Nat.pow 10 (digits + exponent) * unitsPerOne) :=
          (onFinestGrid_ones _).symm
        _ = onFinestGrid (Nat.pow 10 digits * (unitsPerOne * Nat.pow 10 exponent)) := by
          have apart : Nat.pow 10 (digits + exponent) = Nat.pow 10 digits * Nat.pow 10 exponent :=
            Nat.pow_add 10 digits exponent
          rw [apart, Nat.mul_assoc, Nat.mul_comm unitsPerOne]
  | negSucc exponent =>
      have sum : exponent + 1 + power = digits + finestPlaces := by
        rw [Int.negSucc_eq] at place
        omega
      rw [scaledDown]
      dsimp only
      calc
        onFinestGrid (count * Nat.pow 10 (exponent + 1))
          = Nat.pow 10 (exponent + 1) * onFinestGrid count := by
            rw [Nat.mul_comm, onFinestGrid_mul]
        _ < Nat.pow 10 (exponent + 1) * Nat.pow 10 power :=
          Nat.mul_lt_mul_of_pos_left below (Nat.pow_pos (by decide))
        _ = Nat.pow 10 (exponent + 1 + power) := (Nat.pow_add 10 _ _).symm
        _ = onFinestGrid (Nat.pow 10 digits * unitsPerOne) := by rw [sum, onFinestGrid_ones]

theorem unitsPerOne_pos : 0 < unitsPerOne := by
  decide +kernel

theorem scaledDown_pos (count : Nat) (exponent : Int) : 0 < (scaledDown count exponent).2 := by
  cases exponent with
  | ofNat exponent =>
      rw [scaledDown]
      dsimp only
      exact Nat.mul_pos unitsPerOne_pos (Nat.pow_pos (by decide))
  | negSucc exponent =>
      rw [scaledDown]
      dsimp only
      exact unitsPerOne_pos

theorem lt_leadingPlace (small : onFinestGrid count < Nat.pow 10 (Nat.pow 2 11)) :
    onFinestGrid count < Nat.pow 10 (leadingPlace count + 1) := by
  rw [leadingPlace]
  exact lt_decimalExponent small

theorem natAbs_leadingExponent (count : Nat) : (leadingExponent count).natAbs < 2048 := by
  have place : leadingPlace count < 2048 := by
    rw [leadingPlace]
    exact decimalExponent_lt 11 (onFinestGrid count)
  rw [leadingExponent, finestPlaces, Int.ofNat_eq_natCast]
  omega

/-- What is below a power of ten on the finest grid, in units of the last place of a significand. -/
theorem scaledDown_leading_lt (places : Nat)
    (leading : onFinestGrid count < Nat.pow 10 (leadingPlace count + 1)) :
    (scaledDown count (leadingExponent count - places)).1 <
      Nat.pow 10 (places + 1) * (scaledDown count (leadingExponent count - places)).2 := by
  apply scaledDown_lt leading
  rw [leadingExponent, Int.ofNat_eq_natCast]
  generalize leadingPlace count = place
  generalize finestPlaces = finest
  omega

theorem significandAt_bounds {exponent : Int} {limit : Nat}
    (below : (scaledDown count (exponent - places)).1 <
      Nat.pow 10 (places + 1) * (scaledDown count (exponent - places)).2)
    (few : exponent.natAbs < limit) :
    (significandAt places count exponent).1 < Nat.pow 10 (places + 1) ∧
      (significandAt places count exponent).2.natAbs ≤ limit := by
  have rounded := roundDiv_le (scaledDown_pos _ _) (Nat.le_of_lt below)
  rw [significandAt]
  dsimp only
  split
  · refine ⟨Nat.pow_lt_pow_right (by decide) (Nat.lt_succ_self places), ?_⟩
    dsimp only
    omega
  · next exact =>
      refine ⟨Nat.lt_of_le_of_ne rounded exact, ?_⟩
      dsimp only
      omega

/-- The significand has one digit in front of its places, and its power of ten at most four. -/
theorem significand_bounds (places : Nat) (small : onFinestGrid count < Nat.pow 10 (Nat.pow 2 11)) :
    (significand places count).1 < Nat.pow 10 (places + 1) ∧
      (significand places count).2.natAbs ≤ 2048 := by
  rw [significand]
  exact significandAt_bounds (scaledDown_leading_lt places (lt_leadingPlace small))
    (natAbs_leadingExponent count)

/-! ## Lengths -/

theorem length_signCharacters (number : Float) : (signCharacters number).length ≤ 1 := by
  unfold signCharacters
  split <;> decide

theorem length_decimal {digits : Nat} (width places : Nat) (wide : 0 < width)
    (fraction : 0 < places) (fits : digits < Nat.pow 10 (width + places)) :
    (Decimal.mk digits places).characters.length ≤ width + 1 + places := by
  have positive : 0 < Nat.pow 10 places := Nat.pow_pos (by decide)
  have whole : (Nat.toDigits 10 (digits / Nat.pow 10 places)).length ≤ width := by
    rw [Nat.length_toDigits_le_iff (by decide) wide, Nat.div_lt_iff_lt_mul positive]
    exact fits.trans_eq (Nat.pow_add 10 width places)
  have behind := Decimal.length_padded fraction (Nat.mod_lt digits positive)
  unfold Decimal.characters
  dsimp only
  rw [if_neg (Nat.ne_of_gt fraction), List.length_append, List.length_cons, behind]
  omega

theorem length_wholeCharacters {value : Int} (width : Nat) (wide : 0 < width)
    (fits : value.natAbs < Nat.pow 10 width) : (wholeCharacters value).length ≤ width + 1 := by
  have digits : (Nat.toDigits 10 value.natAbs).length ≤ width :=
    (Nat.length_toDigits_le_iff (by decide) wide).mpr fits
  unfold wholeCharacters
  split
  · exact Nat.succ_le_succ digits
  · exact Nat.le_succ_of_le digits

theorem length_dropTrailing (character : Char) (characters : List Char) :
    (dropTrailing character characters).length ≤ characters.length := by
  rw [dropTrailing, List.length_reverse]
  exact (List.dropWhile_suffix _).length_le.trans_eq List.length_reverse

theorem length_scientific (finite : number.isFinite = true) :
    (scientificCharacters resultFormat.places number).length ≤ 18 := by
  obtain ⟨digits, power⟩ := significand_bounds 6 (onFinestGrid_lt finite)
  have sign := length_signCharacters number
  have mantissa := length_decimal 1 6 (by decide) (by decide)
    (digits.trans_eq (congrArg (Nat.pow 10) (Nat.add_comm 6 1)))
  have exponent := length_wholeCharacters 4 (by decide)
    (Nat.lt_of_le_of_lt power (by decide))
  change (signCharacters number ++
    (Decimal.mk (significand 6 (units number)).1 6).characters ++
      'e' :: wholeCharacters (significand 6 (units number)).2).length ≤ 18
  rw [List.length_append, List.length_append, List.length_cons]
  omega

theorem length_fixed (plain : resultFormat.needsExponent (units number) = false) :
    (dropTrailing '.' (dropTrailing '0' (fixedCharacters resultFormat.places number))).length ≤
      18 := by
  have small : units number ≤ resultFormat.largest * unitsPerOne := by
    rw [ResultFormat.needsExponent, Bool.or_eq_false_iff, decide_eq_false_iff_not] at plain
    exact Nat.le_of_not_lt plain.1
  have largest : resultFormat.largest = Nat.pow 10 10 := rfl
  rw [largest] at small
  have rounded : roundDiv (units number * Nat.pow 10 6) unitsPerOne ≤ Nat.pow 10 16 := by
    have positive := unitsPerOne_pos
    generalize unitsPerOne = ones at *
    apply roundDiv_le positive
    calc
      units number * Nat.pow 10 6 ≤ Nat.pow 10 10 * ones * Nat.pow 10 6 :=
        Nat.mul_le_mul_right _ small
      _ = Nat.pow 10 16 * ones := Nat.mul_right_comm _ _ _
  change (dropTrailing '.' (dropTrailing '0' (signCharacters number ++
    (Decimal.mk (roundDiv (units number * Nat.pow 10 6) unitsPerOne) 6).characters))).length ≤ 18
  rcases Nat.eq_or_lt_of_le rounded with greatest | digits
  · -- a one with ten zeros, and all zeros behind the point are dropped
    rw [greatest]
    unfold signCharacters
    split <;> decide +kernel
  · have sign := length_signCharacters number
    have decimal := length_decimal 10 6 (by decide) (by decide) digits
    apply Nat.le_trans (length_dropTrailing _ _)
    apply Nat.le_trans (length_dropTrailing _ _)
    rw [List.length_append]
    omega

theorem length_resultText (finite : number.isFinite = true) :
    (resultText number).toList.length ≤ 18 := by
  rw [resultText, String.toList_ofList, ResultFormat.characters, finite]
  cases needed : resultFormat.needsExponent (units number) with
  | true => exact length_scientific finite
  | false => exact length_fixed needed

end Number

end Reckoner
