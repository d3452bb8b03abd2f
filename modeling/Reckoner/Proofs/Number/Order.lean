import Reckoner.Proofs.Number.Multiples

/-!
# The order of doubles

Finite doubles are compared like their exact values.  A comparison unpacks them and compares the
scales before the significands; this is the order of the values because each of them is on the
least scale that has room for its significand, which `Number.Unpacks` records.
-/

namespace Reckoner

namespace Number

open Float.Model (Format UnpackedFloat)
open Float.Model.UnpackedFloat

/-- The value of a finite double, counted in least units. -/
def signedUnits (number : Float) : ℤ :=
  signed (isNegative number) (units number : ℤ)

theorem value_eq_signedUnits (number : Float) :
    value number = signedUnits number / unitsPerOne := by
  rw [value, magnitude, signedUnits, cast_signed, Int.cast_natCast, div_eq_mul_inv, div_eq_mul_inv,
    signed_mul]

/-- What a finite double is unpacked to, and how many units that is. -/
inductive Unpacks : UnpackedFloat → ℤ → Prop where
  | zero (sign : Sign) : Unpacks (.zero sign) 0
  | finite (sign : Sign) {scale significand : Nat} (positive : 0 < significand) :
      significand < 2 * bitsPerScale → scale = 0 ∨ bitsPerScale ≤ significand →
      Unpacks (.finite sign significand (scale - 1074) positive)
        (sign.apply (significand * Nat.pow 2 scale : Nat))

variable {number other : Float}

theorem apply_sign (number : Float) (count : ℤ) :
    (Sign.ofBitVec (@unpackSign .binary64 number.toBits.toBitVec)).apply count =
      signed (isNegative number) count := by
  rw [ofBitVec_unpackSign]
  unfold isNegative
  rw [UInt64.toNat_toBitVec]
  by_cases negative : signBit ≤ number.toBits.toNat
  · rw [if_pos negative, decide_eq_true negative]
    rfl
  · rw [if_neg negative, decide_eq_false negative]
    rfl

theorem unpacks (finite : number.isFinite = true) :
    Unpacks number.toModel.unpack (signedUnits number) := by
  have notLast : @unpackExponent .binary64 number.toBits.toBitVec ≠ -1#_ := by
    rw [ne_eq, unpackExponent_eq_last]
    exact Nat.not_le.mpr (isFinite_iff.mp finite)
  have magnitude : magnitudeBits number = _ := toNat_magnitude number.toBits.toBitVec
  have fraction : (@unpackMantissa .binary64 number.toBits.toBitVec).toNat < bitsPerScale :=
    (@unpackMantissa .binary64 number.toBits.toBitVec).isLt
  have counted : ∀ {scale significand : Nat},
      magnitudeBits number = scale * bitsPerScale + significand →
      significand < 2 * bitsPerScale → scale = 0 ∨ bitsPerScale ≤ significand →
      units number = significand * Nat.pow 2 scale := by
    intro scale significand split fits leading
    rw [units, split, unitsOfBits_scale (Nat.le_of_lt fits) leading]
  change Unpacks (unpack .binary64 number.toBits.toBitVec) _
  rw [signedUnits, ← apply_sign]
  rcases unpack_cases _ notLast with
    ⟨least, zero, unpacked⟩ | ⟨least, positive, unpacked⟩ | ⟨normal, positive, unpacked⟩
  · rw [least, zero] at magnitude
    have none : units number = 0 := by
      rw [counted magnitude (by decide) (.inl rfl)]
      rfl
    rw [unpacked, none]
    generalize Sign.ofBitVec _ = sign
    cases sign with
    | negative => exact .zero .negative
    | positive => exact .zero .positive
  · rw [least] at magnitude
    have below : (@unpackMantissa .binary64 number.toBits.toBitVec).toNat < 2 * bitsPerScale := by
      omega
    rw [unpacked, counted magnitude below (.inl rfl)]
    exact .finite _ positive below (.inl rfl)
  · have above : (@unpackExponent .binary64 number.toBits.toBitVec).toNat ≠ 0 :=
      fun least => normal (BitVec.eq_of_toNat_eq least)
    obtain ⟨scale, scaleEq⟩ := Nat.exists_eq_succ_of_ne_zero above
    have exponent : ((@unpackExponent .binary64 number.toBits.toBitVec).toNat : ℤ) - 1075 =
        (scale : ℤ) - 1074 := by
      omega
    have significand := toNat_leadingBit (@unpackMantissa .binary64 number.toBits.toBitVec)
    rw [scaleEq, Nat.succ_mul, Nat.add_assoc, ← significand] at magnitude
    have below : (1#1 ++ @unpackMantissa .binary64 number.toBits.toBitVec).toNat <
        2 * bitsPerScale := by
      omega
    have leading : scale = 0 ∨
        bitsPerScale ≤ (1#1 ++ @unpackMantissa .binary64 number.toBits.toBitVec).toNat := by
      omega
    rw [unpacked, counted magnitude below leading, exponent]
    exact .finite _ positive below leading

/-! ## Comparing -/

theorem compare_neg_neg (count other : ℤ) :
    compare (-count) (-other) = (compare count other).swap := by
  rw [Int.compare_swap]
  rcases lt_trichotomy count other with below | same | above
  · rw [Int.compare_eq_gt.mpr below, Int.compare_eq_gt]
    omega
  · rw [same, Int.compare_eq_eq.mpr rfl, Int.compare_eq_eq.mpr rfl]
  · rw [Int.compare_eq_lt.mpr above, Int.compare_eq_lt]
    omega

/-- The scales come first, and on one scale the significands. -/
theorem compare_scales {scale significand otherScale otherSignificand : Nat}
    (fits : significand < 2 * bitsPerScale) (leading : scale = 0 ∨ bitsPerScale ≤ significand)
    (otherFits : otherSignificand < 2 * bitsPerScale)
    (otherLeading : otherScale = 0 ∨ bitsPerScale ≤ otherSignificand) :
    (compare ((scale : ℤ) - 1074) (otherScale - 1074)).then
        (compare significand otherSignificand) =
      compare ((significand * Nat.pow 2 scale : Nat) : ℤ)
        (otherSignificand * Nat.pow 2 otherScale : Nat) := by
  rcases Nat.lt_trichotomy scale otherScale with below | same | above
  · -- only on the least scale are there smaller significands, and the other scale is not the least
    have less := significand_lt fits (otherLeading.resolve_left (by omega)) below
    rw [Int.compare_eq_lt.mpr (by omega), Int.compare_eq_lt.mpr (Int.ofNat_lt.mpr less)]
    rfl
  · subst same
    have positive : 0 < Nat.pow 2 scale := Nat.pow_pos (by decide)
    rw [Int.compare_eq_eq.mpr rfl]
    change compare significand otherSignificand = _
    rcases Nat.lt_trichotomy significand otherSignificand with below | same | above
    · rw [Nat.compare_eq_lt.mpr below, eq_comm, Int.compare_eq_lt, Int.ofNat_lt]
      exact Nat.mul_lt_mul_of_pos_right below positive
    · rw [same, Nat.compare_eq_eq.mpr rfl, Int.compare_eq_eq.mpr rfl]
    · rw [Nat.compare_eq_gt.mpr above, eq_comm, Int.compare_eq_gt, Int.ofNat_lt]
      exact Nat.mul_lt_mul_of_pos_right above positive
  · have less := significand_lt otherFits (leading.resolve_left (by omega)) above
    rw [Int.compare_eq_gt.mpr (by omega), Int.compare_eq_gt.mpr (Int.ofNat_lt.mpr less)]
    rfl

theorem cast_count_pos {significand : Nat} (positive : 0 < significand) (scale : Nat) :
    (0 : ℤ) < (significand * Nat.pow 2 scale : Nat) :=
  Int.natCast_pos.mpr (Nat.mul_pos positive (Nat.pow_pos (by decide)))

theorem compare_unpacks {left right : UnpackedFloat} {count otherCount : ℤ}
    (unpacks : Unpacks left count) (otherUnpacks : Unpacks right otherCount) :
    left.compare right = some (compare count otherCount) := by
  cases unpacks with
  | zero sign =>
      cases otherUnpacks with
      | zero otherSign => rfl
      | @finite otherSign otherScale _ otherPositive _ _ =>
          have above := cast_count_pos otherPositive otherScale
          cases otherSign with
          | negative => exact congrArg some (Int.compare_eq_gt.mpr (neg_lt_zero.mpr above)).symm
          | positive => exact congrArg some (Int.compare_eq_lt.mpr above).symm
  | @finite sign scale _ positive fits leading =>
      have above := cast_count_pos positive scale
      cases otherUnpacks with
      | zero otherSign =>
          cases sign with
          | negative => exact congrArg some (Int.compare_eq_lt.mpr (neg_lt_zero.mpr above)).symm
          | positive => exact congrArg some (Int.compare_eq_gt.mpr above).symm
      | @finite otherSign otherScale _ otherPositive otherFits otherLeading =>
          have otherAbove := cast_count_pos otherPositive otherScale
          have scales := compare_scales fits leading otherFits otherLeading
          cases sign with
          | negative =>
              cases otherSign with
              | negative =>
                  refine congrArg some (Eq.trans ?_ (compare_neg_neg _ _).symm)
                  exact congrArg Ordering.swap scales
              | positive =>
                  have order := (neg_lt_zero.mpr above).trans otherAbove
                  exact congrArg some (Int.compare_eq_lt.mpr order).symm
          | positive =>
              cases otherSign with
              | negative =>
                  have order := (neg_lt_zero.mpr otherAbove).trans above
                  exact congrArg some (Int.compare_eq_gt.mpr order).symm
              | positive => exact congrArg some scales

theorem lt_iff_value_lt (finite : number.isFinite = true) (otherFinite : other.isFinite = true) :
    number < other ↔ value number < value other := by
  have compared := compare_unpacks (unpacks finite) (unpacks otherFinite)
  change decide ((number.toModel.unpack.compare other.toModel.unpack == some .lt) = true) = true ↔
    value number < value other
  rw [compared, value_eq_signedUnits, value_eq_signedUnits,
    div_lt_div_iff_of_pos_right cast_unitsPerOne_pos, Int.cast_lt, ← Int.compare_eq_lt]
  simp

theorem le_iff_value_le (finite : number.isFinite = true) (otherFinite : other.isFinite = true) :
    number ≤ other ↔ value number ≤ value other := by
  have compared := compare_unpacks (unpacks finite) (unpacks otherFinite)
  change decide ((number.toModel.unpack.compare other.toModel.unpack).any (·.isLE) = true) = true ↔
    value number ≤ value other
  rw [compared, value_eq_signedUnits, value_eq_signedUnits,
    div_le_div_iff_of_pos_right cast_unitsPerOne_pos, Int.cast_le, ← Int.isLE_compare]
  simp

end Number

end Reckoner
