import Reckoner.Number.Units

/-!
# Encodings of doubles

The logical model of doubles takes an encoding apart into a sign, a scale and a fraction, and packs
them again.  For finite doubles nothing is lost on the way: a finite double is determined by its
sign and its magnitude, and negation changes the sign alone.
-/

namespace Reckoner

namespace Number

open Float.Model (Format UnpackedFloat)
open Float.Model.UnpackedFloat

theorem signBit_eq : signBit = 9223372036854775808 :=
  rfl

theorem bitsPerScale_eq : bitsPerScale = 4503599627370496 :=
  rfl

theorem infinityBits_eq : infinityBits = 9218868437227405312 :=
  rfl

section Parts

variable (bits : BitVec Format.binary64.numBits)

theorem toNat_unpackMantissa : (unpackMantissa bits).toNat = bits.toNat % bitsPerScale := by
  unfold unpackMantissa bitsPerScale
  rw [BitVec.toNat_cast, BitVec.extractLsb_toNat]
  simp

theorem toNat_unpackExponent :
    (unpackExponent bits).toNat = bits.toNat / bitsPerScale % 2048 := by
  unfold unpackExponent bitsPerScale
  rw [BitVec.toNat_cast, BitVec.extractLsb_toNat]
  simp [Nat.shiftRight_eq_div_pow]

theorem toNat_unpackSign : (unpackSign bits).toNat = bits.toNat / signBit := by
  have bound : bits.toNat < 18446744073709551616 := bits.isLt
  unfold unpackSign
  rw [BitVec.toNat_cast, BitVec.extractLsb_toNat, signBit_eq]
  simp [Nat.shiftRight_eq_div_pow]
  omega

theorem toNat_packComponents (sign : Sign) (scale : BitVec 11) (fraction : BitVec 52) :
    (packComponents .binary64 sign scale fraction).toNat =
      sign.toBitVec.toNat * signBit + scale.toNat * bitsPerScale + fraction.toNat := by
  unfold packComponents
  rw [BitVec.toNat_append, BitVec.toNat_append, ← Nat.shiftLeft_add_eq_or_of_lt fraction.isLt,
    ← Nat.shiftLeft_add_eq_or_of_lt scale.isLt, Nat.shiftLeft_eq, Nat.shiftLeft_eq]
  simp only [signBit, bitsPerScale]
  simp
  omega

theorem toNat_magnitude :
    bits.toNat % signBit =
      (unpackExponent bits).toNat * bitsPerScale + (unpackMantissa bits).toNat := by
  have bound : bits.toNat < 18446744073709551616 := bits.isLt
  rw [toNat_unpackExponent, toNat_unpackMantissa, bitsPerScale_eq, signBit_eq]
  omega

theorem ofBitVec_unpackSign :
    Sign.ofBitVec (unpackSign bits) = if signBit ≤ bits.toNat then .negative else .positive := by
  have bound : bits.toNat < 18446744073709551616 := bits.isLt
  have sign := toNat_unpackSign bits
  rw [signBit_eq] at sign ⊢
  unfold Sign.ofBitVec
  by_cases negative : 9223372036854775808 ≤ bits.toNat
  · rw [if_pos negative, if_neg]
    intro clear
    rw [clear] at sign
    change 0 = _ at sign
    omega
  · rw [if_neg negative, if_pos]
    apply BitVec.eq_of_toNat_eq
    change _ = 0
    omega

theorem toBitVec_ofBitVec (sign : BitVec 1) : (Sign.ofBitVec sign).toBitVec = sign := by
  revert sign
  decide

/-- An encoding is put together from its own parts. -/
theorem packComponents_unpack :
    packComponents .binary64 (Sign.ofBitVec (unpackSign bits)) (unpackExponent bits)
      (unpackMantissa bits) = bits := by
  have bound : bits.toNat < 18446744073709551616 := bits.isLt
  apply BitVec.eq_of_toNat_eq
  rw [toNat_packComponents, toBitVec_ofBitVec, toNat_unpackSign, toNat_unpackExponent,
    toNat_unpackMantissa, signBit_eq, bitsPerScale_eq]
  omega

theorem toNat_leadingBit (fraction : BitVec 52) :
    (1#1 ++ fraction).toNat = bitsPerScale + fraction.toNat := by
  rw [BitVec.toNat_append, ← Nat.shiftLeft_add_eq_or_of_lt fraction.isLt]
  rfl

/-- What a finite encoding stands for: a zero, a number below the scale, or a number on it. -/
theorem unpack_cases (finite : unpackExponent bits ≠ -1#_) :
    unpackExponent bits = 0#_ ∧ unpackMantissa bits = 0#_ ∧
        unpack .binary64 bits = .zero (Sign.ofBitVec (unpackSign bits)) ∨
      unpackExponent bits = 0#_ ∧ (∃ positive, unpack .binary64 bits =
        .finite (Sign.ofBitVec (unpackSign bits)) (unpackMantissa bits).toNat (-1074) positive) ∨
      unpackExponent bits ≠ 0#_ ∧ ∃ positive, unpack .binary64 bits =
        .finite (Sign.ofBitVec (unpackSign bits)) (1#1 ++ unpackMantissa bits).toNat
          ((unpackExponent bits).toNat - 1075) positive := by
  unfold unpack
  dsimp only
  rw [if_neg finite]
  by_cases least : unpackExponent bits = 0#_
  · rw [if_pos least]
    by_cases zero : unpackMantissa bits = 0#_
    · rw [dif_pos zero]
      exact .inl ⟨least, zero, rfl⟩
    · have positive : 0 < (unpackMantissa bits).toNat :=
        Nat.pos_of_ne_zero fun none => zero (BitVec.eq_of_toNat_eq none)
      rw [dif_neg zero]
      refine .inr (.inl ⟨least, positive, ?_⟩)
      rw [least]
      rfl
  · have positive : 0 < (1#1 ++ unpackMantissa bits).toNat := by
      rw [toNat_leadingBit, bitsPerScale_eq]
      omega
    rw [if_neg least]
    exact .inr (.inr ⟨least, positive, rfl⟩)

end Parts

section Pack

variable {sign : Sign}

theorem neg_unpackedZero : (UnpackedFloat.zero sign).neg = .zero (-sign) :=
  rfl

theorem neg_unpackedFinite {mantissa : Nat} {exponent : Int} {positive : 0 < mantissa} :
    (UnpackedFloat.finite sign mantissa exponent positive).neg =
      .finite (-sign) mantissa exponent positive :=
  rfl

theorem pack_zero : pack .binary64 (.zero sign) = packComponents .binary64 sign 0 0 :=
  rfl

/-- A number below the least scale has no leading bit to be left out. -/
theorem pack_subnormal {fraction : BitVec 52} (positive : 0 < fraction.toNat) :
    pack .binary64 (.finite sign fraction.toNat (-1074) positive) =
      packComponents .binary64 sign 0 fraction := by
  have short : fraction.toNat.log2 < 52 := (Nat.log2_lt (Nat.ne_of_gt positive)).mpr fraction.isLt
  have scale : ((-1074 : Int) + Format.binary64.exponentBias +
      Format.binary64.mantissaBitsWithoutImplicit).toNat = 1 := by decide
  unfold pack
  dsimp only
  rw [scale, if_neg (by decide), if_neg ?_]
  · rw [BitVec.ofNat_toNat, BitVec.setWidth_eq]
    rfl
  · have width : Format.binary64.mantissaBits = 53 := rfl
    omega

/-- A number on the scale loses its leading bit, which the scale makes known. -/
theorem pack_normal {scale : BitVec 11} {fraction : BitVec 52} (finite : scale ≠ -1#_)
    (positive : 0 < (1#1 ++ fraction).toNat) :
    pack .binary64 (.finite sign (1#1 ++ fraction).toNat (scale.toNat - 1075) positive) =
      packComponents .binary64 sign scale fraction := by
  have value := toNat_leadingBit fraction
  have fractionBound : fraction.toNat < 4503599627370496 := fraction.isLt
  have log : (1#1 ++ fraction).toNat.log2 + 1 = Format.binary64.mantissaBits := by
    have width : Format.binary64.mantissaBits = 53 := rfl
    have log52 : (1#1 ++ fraction).toNat.log2 = 52 := by
      rw [Nat.log2_eq_iff (Nat.ne_of_gt positive), value, bitsPerScale_eq]
      omega
    rw [log52, width]
  have scaleBound : scale.toNat < 2047 := by
    have below : scale.toNat < 2048 := scale.isLt
    have notLast : scale.toNat ≠ 2047 := fun last => finite (BitVec.eq_of_toNat_eq last)
    omega
  have biased : ((scale.toNat - 1075 : Int) + Format.binary64.exponentBias +
      Format.binary64.mantissaBitsWithoutImplicit).toNat = scale.toNat := by
    have bias : (Format.binary64.exponentBias : Int) = 1023 := rfl
    have width : (Format.binary64.mantissaBitsWithoutImplicit : Int) = 52 := rfl
    omega
  unfold pack
  dsimp only
  rw [biased, if_neg (by simp; omega), if_pos log, BitVec.ofNat_toNat, BitVec.setWidth_eq]
  congr 1
  apply BitVec.eq_of_toNat_eq
  rw [BitVec.toNat_ofNat, value, bitsPerScale_eq]
  omega

end Pack

/-- Packing what a finite encoding stands for gives the encoding back; with the other sign it
gives the encoding with the other sign. -/
theorem pack_unpack {bits : BitVec Format.binary64.numBits} (finite : unpackExponent bits ≠ -1#_) :
    pack .binary64 (unpack .binary64 bits) = bits ∧
      pack .binary64 (unpack .binary64 bits).neg =
        packComponents .binary64 (-Sign.ofBitVec (unpackSign bits)) (unpackExponent bits)
          (unpackMantissa bits) := by
  have whole := packComponents_unpack bits
  rcases unpack_cases bits finite with
    ⟨least, zero, unpacked⟩ | ⟨least, positive, unpacked⟩ | ⟨normal, positive, unpacked⟩
  · rw [unpacked, neg_unpackedZero, pack_zero, pack_zero, least, zero]
    rw [least, zero] at whole
    exact ⟨whole, rfl⟩
  · rw [unpacked, neg_unpackedFinite, pack_subnormal, pack_subnormal, least]
    rw [least] at whole
    exact ⟨whole, rfl⟩
  · rw [unpacked, neg_unpackedFinite, pack_normal finite, pack_normal finite]
    exact ⟨whole, rfl⟩

theorem eq_of_toBits_eq {first second : Float}
    (same : first.toBits.toNat = second.toBits.toNat) : first = second := by
  obtain ⟨⟨bits, valid⟩⟩ := first
  obtain ⟨⟨otherBits, otherValid⟩⟩ := second
  have bitsEq : bits = otherBits := UInt64.toNat_inj.mp same
  subst bitsEq
  rfl

variable {number : Float}

theorem unpackExponent_eq_last {bits : BitVec Format.binary64.numBits} :
    unpackExponent bits = -1#_ ↔ infinityBits ≤ bits.toNat % signBit := by
  have bound : bits.toNat < 18446744073709551616 := bits.isLt
  have scale := toNat_unpackExponent bits
  rw [bitsPerScale_eq] at scale
  rw [← BitVec.toNat_inj, scale, infinityBits_eq, signBit_eq]
  change _ = 2047 ↔ _
  omega

/-- The finite doubles are those with a magnitude below the infinite one. -/
theorem isFinite_iff : number.isFinite = true ↔ magnitudeBits number < infinityBits := by
  rw [magnitudeBits, ← Nat.not_le]
  change (unpack .binary64 number.toBits.toBitVec).isFinite = true ↔
    ¬infinityBits ≤ number.toBits.toBitVec.toNat % signBit
  rw [← unpackExponent_eq_last]
  constructor
  · intro finite last
    unfold UnpackedFloat.unpack at finite
    dsimp only at finite
    rw [if_pos last] at finite
    split at finite <;> contradiction
  · intro finite
    rcases unpack_cases _ finite with ⟨_, _, unpacked⟩ | ⟨_, _, unpacked⟩ | ⟨_, _, unpacked⟩
    · rw [unpacked]
      rfl
    · rw [unpacked]
      rfl
    · rw [unpacked]
      rfl

theorem toBits_eq (number : Float) :
    number.toBits.toNat = (if isNegative number then signBit else 0) + magnitudeBits number := by
  have bound : number.toBits.toNat < 18446744073709551616 := number.toBits.toBitVec.isLt
  unfold isNegative magnitudeBits
  rw [signBit_eq]
  split
  · next negative =>
      have above := of_decide_eq_true negative
      omega
  · next nonnegative =>
      have below := of_decide_eq_false (Bool.eq_false_iff.mpr nonnegative)
      omega

/-- The double with a finite magnitude has that encoding. -/
theorem toBits_ofMagnitudeBits {negative : Bool} {bits : Nat} (finite : bits < infinityBits) :
    (ofMagnitudeBits negative bits).toBits.toNat = (if negative then signBit else 0) + bits := by
  let encoding := if negative then signBit + bits else bits
  have encodingEq : encoding = (if negative then signBit else 0) + bits := by
    cases negative <;> simp [encoding]
  have bound : encoding < 18446744073709551616 ∧ encoding % signBit = bits := by
    rw [infinityBits_eq] at finite
    rw [encodingEq, signBit_eq]
    cases negative <;> simp <;> omega
  have value : (BitVec.ofNat 64 encoding).toNat = encoding := by
    rw [BitVec.toNat_ofNat]
    exact Nat.mod_eq_of_lt bound.1
  have notLast : @unpackExponent .binary64 (BitVec.ofNat 64 encoding) ≠ -1#_ := by
    rw [ne_eq, unpackExponent_eq_last, value, bound.2]
    exact Nat.not_le.mpr finite
  have packed := (pack_unpack notLast).1
  change (UnpackedFloat.pack .binary64 (UnpackedFloat.unpack .binary64
    (BitVec.ofNat 64 encoding))).toNat = _
  rw [packed, value, encodingEq]

theorem toNat_neg_sign (bits : BitVec Format.binary64.numBits) :
    (-Sign.ofBitVec (unpackSign bits)).toBitVec.toNat =
      if signBit ≤ bits.toNat then 0 else 1 := by
  rw [ofBitVec_unpackSign]
  split
  · rfl
  · rfl

/-- Negation changes the sign of a finite double and nothing else. -/
theorem toBits_neg (finite : number.isFinite = true) :
    (-number).toBits.toNat =
      (if isNegative number then 0 else signBit) + magnitudeBits number := by
  have notLast : @unpackExponent .binary64 number.toBits.toBitVec ≠ -1#_ := by
    rw [ne_eq, unpackExponent_eq_last]
    exact Nat.not_le.mpr (isFinite_iff.mp finite)
  have packed := congrArg BitVec.toNat (pack_unpack notLast).2
  rw [toNat_packComponents, toNat_neg_sign, Nat.add_assoc, ← toNat_magnitude] at packed
  have signs : (if signBit ≤ number.toBits.toBitVec.toNat then 0 else 1) * signBit =
      if isNegative number then 0 else signBit := by
    unfold isNegative
    rw [UInt64.toNat_toBitVec]
    by_cases negative : signBit ≤ number.toBits.toNat
    · rw [if_pos negative, if_pos (decide_eq_true negative), Nat.zero_mul]
    · rw [if_neg negative, if_neg (by simpa using negative), Nat.one_mul]
  change (UnpackedFloat.pack .binary64 (UnpackedFloat.unpack .binary64
    number.toBits.toBitVec).neg).toNat = _
  rw [packed, signs]
  rfl

/-- The sign and the magnitude can be read off an encoding. -/
theorem of_toBits_eq {negative : Bool} {bits : Nat} (finite : bits < infinityBits)
    (same : number.toBits.toNat = (if negative then signBit else 0) + bits) :
    isNegative number = negative ∧ magnitudeBits number = bits := by
  unfold isNegative magnitudeBits
  rw [same]
  rw [infinityBits_eq] at finite
  rw [signBit_eq]
  cases negative <;> simp <;> omega

/-- A finite double is made of its sign and its magnitude. -/
theorem ofMagnitudeBits_magnitudeBits (finite : number.isFinite = true) :
    ofMagnitudeBits (isNegative number) (magnitudeBits number) = number := by
  apply eq_of_toBits_eq
  rw [toBits_ofMagnitudeBits (isFinite_iff.mp finite), toBits_eq number]

/-- Without its sign a double below zero is its own negation. -/
theorem ofMagnitudeBits_of_negative (finite : number.isFinite = true)
    (negative : isNegative number = true) :
    ofMagnitudeBits false (magnitudeBits number) = -number := by
  apply eq_of_toBits_eq
  rw [toBits_ofMagnitudeBits (isFinite_iff.mp finite), toBits_neg finite, negative]
  rfl

theorem sign_neg (finite : number.isFinite = true) :
    isNegative (-number) = !isNegative number ∧ magnitudeBits (-number) = magnitudeBits number := by
  apply of_toBits_eq (isFinite_iff.mp finite)
  rw [toBits_neg finite]
  cases isNegative number <;> rfl

theorem isFinite_neg (finite : number.isFinite = true) : (-number).isFinite = true := by
  rw [isFinite_iff, (sign_neg finite).2]
  exact isFinite_iff.mp finite

theorem neg_neg (finite : number.isFinite = true) : - -number = number := by
  apply eq_of_toBits_eq
  rw [toBits_neg (isFinite_neg finite), (sign_neg finite).1, (sign_neg finite).2, toBits_eq number]
  cases isNegative number <;> rfl

end Number

end Reckoner
