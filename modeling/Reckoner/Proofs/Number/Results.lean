import Reckoner.Proofs.Number.Multiples

/-!
# What the text of a result says

A result without a power of ten is the nearest multiple of the last place, written without
superfluous zeros (`Number.WritesPlain`).  A result with a power of ten is a nearest significand,
written with all its digits (`Number.WritesScientific`).  Which of the two it is depends on the
exact value only (`needsExponent_eq_false_iff`).

Both properties speak about the characters and not about how they came about, so a text has one
value (`WritesPlain.unique`), and two results have the same text only where they are rounded to the
same multiple.
-/

namespace Reckoner

namespace Decimal

/-- The exact value. -/
def value (decimal : Decimal) : ℚ :=
  decimal.digits / 10 ^ decimal.places

end Decimal

namespace Number

/-! ## Texts -/

/-- The digits of a whole number, without superfluous zeros in front. -/
structure WholeText (characters : List Char) : Prop where
  digits : ∀ character ∈ characters, character.isDigit = true
  nonempty : characters ≠ []
  leading : characters.head? = some '0' → characters = ['0']

/-- The digits behind a point, without superfluous zeros at the end. -/
structure FractionText (places : Nat) (characters : List Char) : Prop where
  digits : ∀ character ∈ characters, character.isDigit = true
  few : characters.length ≤ places
  last : characters.getLast? ≠ some '0'

def minus (negative : Bool) : List Char :=
  if negative then ['-'] else []

/-- A point in front of the digits, if there are any. -/
def pointed (fraction : List Char) : List Char :=
  if fraction = [] then [] else '.' :: fraction

/-- The characters write the quantity in digits with at most so many places. -/
def WritesPlain (negative : Bool) (places : Nat) (quantity : ℚ) (characters : List Char) : Prop :=
  ∃ whole fraction, characters = minus negative ++ whole ++ pointed fraction ∧
    WholeText whole ∧ FractionText places fraction ∧
    signed negative (Decimal.ofDigits whole fraction).value = quantity

/-- The characters write the quantity with one digit in front of the point, which is not zero, so
many behind it, and the power of ten. -/
def WritesScientific (negative : Bool) (places : Nat) (quantity : ℚ) (exponent : ℤ)
    (characters : List Char) : Prop :=
  ∃ first digits power,
    characters = minus negative ++ first :: '.' :: digits ++
      'e' :: (minus (decide (exponent < 0)) ++ power) ∧
    (first.isDigit = true ∧ first ≠ '0') ∧
    (digits.length = places ∧ ∀ digit ∈ digits, digit.isDigit = true) ∧
    (WholeText power ∧ Decimal.valueOf power = exponent.natAbs) ∧
    signed negative (Decimal.ofDigits [first] digits).value * 10 ^ exponent = quantity

section Texts

variable {character : Char} {characters front fraction : List Char} {places count : Nat}

/-! ## Trailing characters -/

theorem dropTrailing_concat_self (character : Char) (characters : List Char) :
    dropTrailing character (characters ++ [character]) = dropTrailing character characters := by
  simp [dropTrailing]

theorem dropTrailing_concat_of_ne {last : Char} (different : last ≠ character)
    (characters : List Char) :
    dropTrailing character (characters ++ [last]) = characters ++ [last] := by
  simp [dropTrailing, different]

theorem dropTrailing_append_replicate (character : Char) (characters : List Char) (count : Nat) :
    dropTrailing character (characters ++ List.replicate count character) =
      dropTrailing character characters := by
  induction count with
  | zero => rw [List.replicate_zero, List.append_nil]
  | succ count induction =>
      rw [List.replicate_succ', ← List.append_assoc, dropTrailing_concat_self, induction]

theorem dropTrailing_eq_self (last : characters.getLast? ≠ some character) :
    dropTrailing character characters = characters := by
  rcases List.eq_nil_or_concat' characters with rfl | ⟨front, final, rfl⟩
  · rfl
  · apply dropTrailing_concat_of_ne
    rintro rfl
    exact last List.getLast?_concat

/-- What is dropped is a run of that character, and what is left does not end with it. -/
theorem dropTrailing_spec (character : Char) (characters : List Char) :
    (∃ count, characters =
        dropTrailing character characters ++ List.replicate count character) ∧
      (dropTrailing character characters).getLast? ≠ some character := by
  induction characters using List.reverseRecOn with
  | nil => exact ⟨⟨0, rfl⟩, nofun⟩
  | append_singleton characters last induction =>
      by_cases same : last = character
      · obtain ⟨⟨count, parts⟩, rest⟩ := induction
        subst same
        rw [dropTrailing_concat_self]
        refine ⟨⟨count + 1, ?_⟩, rest⟩
        rw [List.replicate_succ', ← List.append_assoc, ← parts]
      · rw [dropTrailing_concat_of_ne same]
        refine ⟨⟨0, (List.append_nil _).symm⟩, ?_⟩
        rw [List.getLast?_concat]
        exact fun equal => same (Option.some.inj equal)

theorem getLast?_ne_of_digits (digits : ∀ digit ∈ characters, digit.isDigit = true)
    (nondigit : character.isDigit = false) : characters.getLast? ≠ some character := by
  intro last
  have digit := digits character (List.mem_of_getLast? last)
  rw [nondigit] at digit
  contradiction

/-- Without trailing zeros, the point is dropped where nothing is left behind it, and never a zero
in front of it. -/
theorem dropTrailing_fixed (frontLast : front.getLast? ≠ some '.')
    (digits : ∀ digit ∈ fraction, digit.isDigit = true) (last : fraction.getLast? ≠ some '0')
    (count : Nat) :
    dropTrailing '.' (dropTrailing '0' (front ++ '.' :: (fraction ++ List.replicate count '0'))) =
      front ++ pointed fraction := by
  have zeros : dropTrailing '0' (front ++ '.' :: (fraction ++ List.replicate count '0')) =
      front ++ '.' :: fraction := by
    rw [← List.cons_append, ← List.append_assoc, dropTrailing_append_replicate]
    apply dropTrailing_eq_self
    rw [List.getLast?_append_cons, List.getLast?_cons]
    cases ending : fraction.getLast? with
    | none => exact fun equal => absurd (Option.some.inj equal) (by decide)
    | some digit => exact fun equal => last (ending.trans equal)
  rw [zeros, pointed]
  split
  · next empty =>
      rw [empty, dropTrailing_concat_self, List.append_nil]
      exact dropTrailing_eq_self frontLast
  · next some =>
      apply dropTrailing_eq_self
      rw [List.append_cons, List.getLast?_append_of_ne_nil _ some]
      exact getLast?_ne_of_digits digits rfl

/-! ## Digits -/

theorem wholeText_toDigits (value : Nat) : WholeText (Nat.toDigits 10 value) := by
  constructor
  · exact fun character member => Decimal.isDigit_of_mem_toDigits member
  · exact Nat.toDigits_ne_nil
  · -- the digits in front of the last one are those of a smaller number, which is not zero
    induction value using Nat.strongRecOn with
    | ind value induction =>
        intro leading
        rcases Nat.lt_or_ge value 10 with small | great
        · rw [Nat.toDigits_of_lt_base small] at leading ⊢
          exact congrArg (fun digit => [digit]) (Option.some.inj leading)
        · have positive : 0 < value / 10 := Nat.div_pos great (by decide)
          have parts := Nat.toDigits_append_toDigits (by decide : 1 < 10) positive
            (Nat.mod_lt value (by decide))
          rw [Nat.div_add_mod] at parts
          rw [← parts, List.head?_append_of_ne_nil _ Nat.toDigits_ne_nil] at leading
          have zero := congrArg Decimal.valueOf
            (induction (value / 10) (Nat.div_lt_self (by omega) (by decide)) leading)
          rw [Decimal.valueOf_toDigits] at zero
          exact absurd zero positive.ne'

theorem value_ofDigits_zeros (whole fraction : List Char) (count : Nat) :
    (Decimal.ofDigits whole (fraction ++ List.replicate count '0')).value =
      (Decimal.ofDigits whole fraction).value := by
  rw [Decimal.value, Decimal.value, Decimal.ofDigits, Decimal.ofDigits, ← List.append_assoc,
    Decimal.valueOf_append, Decimal.valueOf_replicate_zero, List.length_append,
    List.length_replicate, Nat.add_zero, Nat.cast_mul, cast_power, Nat.cast_ofNat, pow_add]
  dsimp only
  field_simp

end Texts

section Written

variable {negative : Bool} {places : Nat} {quantity other : ℚ} {characters : List Char}

theorem pointed_inj {left right : List Char} (same : pointed left = pointed right) :
    left = right := by
  unfold pointed at same
  split at same <;> split at same
  · next leftEmpty rightEmpty => exact leftEmpty.trans rightEmpty.symm
  · contradiction
  · contradiction
  · exact List.tail_eq_of_cons_eq same

/-- A text writes only one quantity: its digits end at the point. -/
theorem WritesPlain.unique (writes : WritesPlain negative places quantity characters)
    (otherWrites : WritesPlain negative places other characters) : quantity = other := by
  obtain ⟨whole, fraction, rfl, wholeText, -, rfl⟩ := writes
  obtain ⟨otherWhole, otherFraction, textEq, otherWholeText, -, rfl⟩ := otherWrites
  have stops (digits : List Char) :
      ∀ character ∈ (pointed digits).head?, character.isDigit = false := by
    intro character member
    unfold pointed at member
    split at member
    · contradiction
    · cases member
      rfl
  rw [List.append_assoc, List.append_assoc] at textEq
  have unsigned := List.append_cancel_left textEq
  have split := Token.takeWhile_run wholeText.digits (stops fraction)
  have otherSplit := Token.takeWhile_run otherWholeText.digits (stops otherFraction)
  rw [← unsigned] at otherSplit
  have wholes : whole = otherWhole := split.1.symm.trans otherSplit.1
  have fractions : fraction = otherFraction := pointed_inj (split.2.symm.trans otherSplit.2)
  rw [wholes, fractions]

end Written

section Plain

variable {places : Nat}

theorem fractionText_dropTrailing {characters : List Char}
    (all : ∀ digit ∈ characters, digit.isDigit = true) (length : characters.length = places) :
    FractionText places (dropTrailing '0' characters) := by
  obtain ⟨⟨count, parts⟩, last⟩ := dropTrailing_spec '0' characters
  refine ⟨fun digit member => all digit ?_, ?_, last⟩
  · rw [parts]
    exact List.mem_append_left _ member
  · rw [← length]
    exact length_dropTrailing _ _

/-- The text of a decimal without its superfluous zeros writes the decimal. -/
theorem writesPlain_decimal (negative : Bool) {decimal : Decimal} (shown : 0 < decimal.places) :
    WritesPlain negative decimal.places (signed negative decimal.value)
      (dropTrailing '.' (dropTrailing '0' (minus negative ++ decimal.characters))) := by
  obtain ⟨digits, places⟩ := decimal
  have positive : 0 < Nat.pow 10 places := Nat.pow_pos (by decide)
  have whole := wholeText_toDigits (digits / Nat.pow 10 places)
  have length := Decimal.length_padded shown (Nat.mod_lt digits positive)
  have all : ∀ digit ∈ Decimal.padded places (digits % Nat.pow 10 places), digit.isDigit = true :=
    fun digit member => Decimal.isDigit_of_mem_padded member
  have fraction := fractionText_dropTrailing all length
  obtain ⟨⟨count, parts⟩, -⟩ :=
    dropTrailing_spec '0' (Decimal.padded places (digits % Nat.pow 10 places))
  refine ⟨_, _, ?_, whole, fraction, ?_⟩
  · have frontLast : (minus negative ++ Nat.toDigits 10 (digits / Nat.pow 10 places)).getLast? ≠
        some '.' := by
      rw [List.getLast?_append_of_ne_nil _ whole.nonempty]
      exact getLast?_ne_of_digits whole.digits rfl
    rw [Decimal.characters]
    dsimp only
    rw [if_neg (Nat.ne_of_gt shown),
      ← dropTrailing_fixed frontLast fraction.digits fraction.last count, ← parts,
      List.append_assoc]
  · rw [← value_ofDigits_zeros _ _ count, ← parts, Decimal.ofDigits_padded shown]

end Plain

section Scientific

variable {places digits : Nat}

theorem wholeCharacters_eq (exponent : Int) :
    wholeCharacters exponent =
      minus (decide (exponent < 0)) ++ Nat.toDigits 10 exponent.natAbs := by
  unfold wholeCharacters minus
  by_cases below : exponent < 0
  · rw [if_pos below, decide_eq_true below]
    rfl
  · rw [if_neg below, decide_eq_false below]
    rfl

/-- A digit that is not zero, alone in front of the point. -/
theorem exists_first {digit : Nat} (positive : 0 < digit) (small : digit < 10) :
    ∃ first, Nat.toDigits 10 digit = [first] ∧ first.isDigit = true ∧ first ≠ '0' := by
  have single := Nat.toDigits_of_lt_base small
  refine ⟨_, single, ?_, ?_⟩
  · apply (wholeText_toDigits digit).digits
    rw [single]
    exact List.mem_singleton_self _
  · intro zero
    have digitEq := Decimal.valueOf_toDigits digit
    rw [single, zero] at digitEq
    exact positive.ne digitEq

/-- The text of a decimal with a single digit in front of the point, and of a power of ten. -/
theorem writesScientific_decimal (negative : Bool) (shown : 0 < places)
    (leading : Nat.pow 10 places ≤ digits) (fits : digits < Nat.pow 10 (places + 1))
    (exponent : ℤ) :
    WritesScientific negative places
      (signed negative (Decimal.mk digits places).value * 10 ^ exponent) exponent
      (minus negative ++ (Decimal.mk digits places).characters ++
        'e' :: wholeCharacters exponent) := by
  have positive : 0 < Nat.pow 10 places := Nat.pow_pos (by decide)
  have small : digits / Nat.pow 10 places < 10 := Nat.div_lt_of_lt_mul fits
  obtain ⟨first, single, firstDigit, firstNonzero⟩ :=
    exists_first (Nat.div_pos leading positive) small
  have length := Decimal.length_padded shown (Nat.mod_lt digits positive)
  have restored : Decimal.ofDigits (Nat.toDigits 10 (digits / Nat.pow 10 places))
      (Decimal.padded places (digits % Nat.pow 10 places)) = ⟨digits, places⟩ :=
    Decimal.ofDigits_padded shown
  refine ⟨first, Decimal.padded places (digits % Nat.pow 10 places),
    Nat.toDigits 10 exponent.natAbs, ?_, ⟨firstDigit, firstNonzero⟩,
    ⟨length, fun digit member => Decimal.isDigit_of_mem_padded member⟩,
    ⟨wholeText_toDigits _, Decimal.valueOf_toDigits _⟩, ?_⟩
  · rw [Decimal.characters, wholeCharacters_eq]
    dsimp only
    rw [if_neg shown.ne', single]
    rfl
  · rw [single] at restored
    rw [restored]

end Scientific

/-! ## Results -/

/-- The numbers that are written without a power of ten. -/
def InPlainRange (quantity : ℚ) : Prop :=
  quantity = 0 ∨ 1 / 10 ^ 5 ≤ |quantity| ∧ |quantity| ≤ 10 ^ 10

section Results

variable {number other : Float}

theorem value_eq_zero_iff : value number = 0 ↔ units number = 0 := by
  rw [← abs_eq_zero, abs_value, magnitude, div_eq_zero_iff, Nat.cast_eq_zero]
  exact or_iff_left cast_unitsPerOne_pos.ne'

theorem value_of_nonnegative (nonnegative : isNegative number = false) :
    value number = magnitude number := by
  rw [value, nonnegative]
  rfl

/-- The form of a result depends on its exact value. -/
theorem needsExponent_eq_false_iff :
    resultFormat.needsExponent (units number) = false ↔ InPlainRange (value number) := by
  have ones := cast_unitsPerOne_pos
  have largest : resultFormat.largest * unitsPerOne < units number ↔
      (10 : ℚ) ^ 10 < magnitude number := by
    have power : ((resultFormat.largest : Nat) : ℚ) = 10 ^ 10 := cast_power 10 10
    rw [magnitude, lt_div_iff₀ ones, ← power, ← Nat.cast_mul, Nat.cast_lt]
  have smallest : units number * resultFormat.smallestPart < unitsPerOne ↔
      magnitude number < 1 / 10 ^ 5 := by
    have power : ((resultFormat.smallestPart : Nat) : ℚ) = 10 ^ 5 := cast_power 10 5
    rw [magnitude, div_lt_div_iff₀ ones (by positivity), one_mul, ← power, ← Nat.cast_mul,
      Nat.cast_lt]
  have zero : units number = 0 → magnitude number = 0 := by
    intro none
    rw [← abs_value, value_eq_zero_iff.mpr none, abs_zero]
  rw [InPlainRange, abs_value, value_eq_zero_iff, ResultFormat.needsExponent,
    Bool.or_eq_false_iff, Bool.and_eq_false_iff, decide_eq_false_iff_not, decide_eq_false_iff_not,
    bne_eq_false_iff_eq, largest, smallest, not_lt, not_lt]
  constructor
  · rintro ⟨below, above | none⟩
    · exact .inr ⟨above, below⟩
    · exact .inl none
  · rintro (none | ⟨above, below⟩)
    · exact ⟨(zero none).trans_le (by positivity), .inr none⟩
    · exact ⟨below, .inl above⟩

/-- The bounds of the range, as doubles. -/
def leastPlain : Float :=
  (Decimal.mk 1 5).toFloat false

def greatestPlain : Float :=
  (Decimal.mk (Nat.pow 10 10) 0).toFloat false

theorem unitsOfBits_mono {bits other : Nat} (order : bits ≤ other) :
    unitsOfBits bits ≤ unitsOfBits other := by
  rcases Nat.eq_or_lt_of_le order with rfl | below
  · exact Nat.le_refl _
  · exact Nat.le_of_lt (unitsOfBits_lt below)

/-- No double lies between `10 ^ -5` and the double that is read for it. -/
theorem units_leastPlain_le_iff (number : Float) :
    units leastPlain ≤ units number ↔ unitsPerOne ≤ units number * Nat.pow 10 5 := by
  have reached : unitsPerOne ≤ units leastPlain * Nat.pow 10 5 := by
    decide +kernel
  have previous : unitsOfBits (magnitudeBits leastPlain - 1) * Nat.pow 10 5 < unitsPerOne := by
    decide +kernel
  constructor
  · exact fun above => reached.trans (Nat.mul_le_mul_right _ above)
  · intro above
    by_contra below
    have order : magnitudeBits number ≤ magnitudeBits leastPlain - 1 := by
      by_contra great
      exact below (unitsOfBits_mono (by omega))
    have short := Nat.mul_le_mul_right (Nat.pow 10 5) (unitsOfBits_mono order)
    exact absurd previous (above.trans short).not_gt

theorem units_greatestPlain : units greatestPlain = Nat.pow 10 10 * unitsPerOne := by
  decide +kernel

/-- The multiple of the last place to which a number is rounded, with its sign. -/
def roundedCount (number : Float) : ℤ :=
  signed (isNegative number) ((roundToPlaces 6 (units number)).digits : ℤ)

theorem nearestMultiple_roundedCount (number : Float) :
    NearestMultiple (1 / 10 ^ 6) (value number) (roundedCount number) :=
  (nearestMultiple_roundToPlaces 6 number).signed (isNegative number)

theorem nearestMultiple_iff {count : ℤ} :
    NearestMultiple (1 / 10 ^ 6) (value number) count ↔ count = roundedCount number := by
  constructor
  · exact fun nearest => nearest.unique (by positivity) (nearestMultiple_roundedCount number)
  · rintro rfl
    exact nearestMultiple_roundedCount number

theorem signCharacters_eq (number : Float) :
    signCharacters number = minus (isNegative number) :=
  rfl

theorem toList_resultText_plain (finite : number.isFinite = true)
    (plain : InPlainRange (value number)) :
    (resultText number).toList = dropTrailing '.' (dropTrailing '0' (minus (isNegative number) ++
      (roundToPlaces 6 (units number)).characters)) := by
  have places : resultFormat.places = 6 := rfl
  rw [resultText, String.toList_ofList, ResultFormat.characters, finite,
    needsExponent_eq_false_iff.mpr plain, fixedCharacters, places, signCharacters_eq]
  rfl

/-- In the plain range, the text writes the nearest multiple. -/
theorem writesPlain_resultText (finite : number.isFinite = true)
    (plain : InPlainRange (value number)) :
    WritesPlain (isNegative number) 6 (roundedCount number * (1 / 10 ^ 6))
      (resultText number).toList := by
  have places : (roundToPlaces 6 (units number)).places = 6 := rfl
  rw [toList_resultText_plain finite plain, roundedCount]
  generalize roundToPlaces 6 (units number) = decimal at *
  have shown : 0 < decimal.places := Nat.lt_of_lt_of_eq (by decide) places.symm
  have writes := writesPlain_decimal (isNegative number) shown
  rw [cast_signed, signed_mul, mul_one_div]
  rw [Decimal.value, places] at writes
  exact writes

/-- Outside, the text writes a nearest significand. -/
theorem writesScientific_resultText (finite : number.isFinite = true)
    (outside : ¬ InPlainRange (value number)) :
    ∃ significand exponent : ℤ, NearestSignificand 6 (value number) significand exponent ∧
      WritesScientific (isNegative number) 6 (significand * 10 ^ (exponent - 6)) exponent
        (resultText number).toList := by
  have positive : 0 < units number := by
    apply Nat.pos_of_ne_zero
    exact fun none => outside (.inl (value_eq_zero_iff.mpr none))
  have needed : resultFormat.needsExponent (units number) = true := by
    rw [← Bool.not_eq_false, needsExponent_eq_false_iff]
    exact outside
  have nearest := nearestSignificand_significand (by decide : 0 < 6) finite positive
  have textEq : (resultText number).toList = minus (isNegative number) ++
      (Decimal.mk (significand 6 (units number)).1 6).characters ++
        'e' :: wholeCharacters (significand 6 (units number)).2 := by
    rw [resultText, String.toList_ofList, ResultFormat.characters, finite, needed]
    rfl
  generalize significand 6 (units number) = rounded at *
  obtain ⟨digits, exponent⟩ := rounded
  dsimp only at nearest textEq
  obtain ⟨leading, fits⟩ := nearest.leading
  rw [abs_of_nonneg (Int.natCast_nonneg digits)] at leading fits
  have writes := writesScientific_decimal (isNegative number) (by decide : 0 < 6)
    (Int.ofNat_le.mp leading) (Int.ofNat_lt.mp fits) exponent
  refine ⟨signed (isNegative number) (digits : ℤ), exponent, nearest.signed _, ?_⟩
  rw [textEq]
  have quantity : signed (isNegative number) (Decimal.mk digits 6).value * (10 : ℚ) ^ exponent =
      ((signed (isNegative number) (digits : ℤ) : ℤ) : ℚ) * 10 ^ (exponent - 6) := by
    rw [cast_signed, signed_mul, signed_mul, signed_inj, Decimal.value,
      zpow_sub₀ (by norm_num)]
    push_cast
    field_simp
    norm_num
  rw [← quantity]
  exact writes

/-- Two results of one sign have the same text just where they are rounded to one multiple. -/
theorem resultText_eq_iff (finite : number.isFinite = true) (plain : InPlainRange (value number))
    (otherFinite : other.isFinite = true) (otherPlain : InPlainRange (value other))
    (signs : isNegative other = isNegative number) :
    resultText number = resultText other ↔
      ∃ count : ℤ, NearestMultiple (1 / 10 ^ 6) (value number) count ∧
        NearestMultiple (1 / 10 ^ 6) (value other) count := by
  simp only [nearestMultiple_iff, exists_eq_left]
  constructor
  · intro same
    have writes := writesPlain_resultText finite plain
    have otherWrites := writesPlain_resultText otherFinite otherPlain
    rw [← same, signs] at otherWrites
    have steps := mul_right_cancel₀ (by positivity) (writes.unique otherWrites)
    exact Int.cast_injective steps
  · intro same
    have digits : (roundToPlaces 6 (units number)).digits =
        (roundToPlaces 6 (units other)).digits := by
      rw [roundedCount, roundedCount, signs] at same
      have cast := congrArg (Int.cast (R := ℚ)) same
      rw [cast_signed, cast_signed, signed_inj] at cast
      exact_mod_cast cast
    have decimals : roundToPlaces 6 (units number) = roundToPlaces 6 (units other) := by
      rw [roundToPlaces, roundToPlaces] at digits ⊢
      dsimp only at digits
      rw [digits]
    apply String.toList_injective
    rw [toList_resultText_plain finite plain, toList_resultText_plain otherFinite otherPlain,
      signs, decimals]

/-- The bounds of the range read as doubles leave the same numbers between them. -/
theorem inPlainRange_iff :
    InPlainRange (value number) ↔
      value number = 0 ∨
        value leastPlain ≤ |value number| ∧ |value number| ≤ value greatestPlain := by
  have ones := cast_unitsPerOne_pos
  have least := value_of_nonnegative (by decide +kernel : isNegative leastPlain = false)
  have greatest := value_of_nonnegative (by decide +kernel : isNegative greatestPlain = false)
  have lower : magnitude leastPlain ≤ magnitude number ↔ 1 / 10 ^ 5 ≤ magnitude number := by
    have scaled : ((Nat.pow 10 5 : Nat) : ℚ) = 10 ^ 5 := cast_power 10 5
    rw [magnitude, magnitude, div_le_div_iff_of_pos_right ones, Nat.cast_le,
      units_leastPlain_le_iff, div_le_div_iff₀ (by positivity) ones, one_mul, ← scaled,
      ← Nat.cast_mul, Nat.cast_le]
  have upper : magnitude greatestPlain = 10 ^ 10 := by
    have scaled : ((Nat.pow 10 10 : Nat) : ℚ) = 10 ^ 10 := cast_power 10 10
    rw [magnitude, units_greatestPlain, Nat.cast_mul, scaled, mul_div_cancel_right₀ _ ones.ne']
  rw [InPlainRange, abs_value, least, greatest, lower, upper]

/-- The text of a finite number.  In the plain range it is the nearest multiple of `10 ^ -6`, a half
going to the even one, without superfluous zeros; so numbers of one sign have the same text just
where they are rounded to the same multiple.  Otherwise it is a nearest significand of seven digits
with its power of ten. -/
theorem resultText_rounded (finite : number.isFinite = true) :
    (InPlainRange (value number) →
      (∃ count : ℤ, NearestMultiple (1 / 10 ^ 6) (value number) count ∧
        WritesPlain (isNegative number) 6 (count * (1 / 10 ^ 6)) (resultText number).toList) ∧
      ∀ other : Float, other.isFinite = true → InPlainRange (value other) →
        isNegative other = isNegative number →
        (resultText number = resultText other ↔
          ∃ count : ℤ, NearestMultiple (1 / 10 ^ 6) (value number) count ∧
            NearestMultiple (1 / 10 ^ 6) (value other) count)) ∧
    (¬ InPlainRange (value number) →
      ∃ significand exponent : ℤ, NearestSignificand 6 (value number) significand exponent ∧
        WritesScientific (isNegative number) 6 (significand * 10 ^ (exponent - 6)) exponent
          (resultText number).toList) ∧
    (InPlainRange (value number) ↔
      value number = 0 ∨
        value leastPlain ≤ |value number| ∧ |value number| ≤ value greatestPlain) := by
  refine ⟨fun plain => ⟨?_, ?_⟩, ?_, inPlainRange_iff⟩
  · exact ⟨roundedCount number, nearestMultiple_roundedCount number,
      writesPlain_resultText finite plain⟩
  · exact fun other otherFinite otherPlain signs =>
      resultText_eq_iff finite plain otherFinite otherPlain signs
  · exact writesScientific_resultText finite

/-- A double half way between two multiples: `0.0078125` is one part in `2 ^ 7`. -/
def halfway : Float :=
  ofMagnitudeBits false (1016 * bitsPerScale)

def leastPositive : Float :=
  ofMagnitudeBits false 1

theorem resultText_rounded_halfway :
    (halfway.isFinite = true ∧ resultText halfway = "0.007812" ∧
      ∃ count : ℤ, NearestMultiple (1 / 10 ^ 6) (value halfway) count ∧
        WritesPlain (isNegative halfway) 6 (count * (1 / 10 ^ 6)) (resultText halfway).toList) ∧
    leastPositive.isFinite = true ∧ resultText leastPositive = "4.940656e-324" ∧
      ∃ significand exponent : ℤ,
        NearestSignificand 6 (value leastPositive) significand exponent ∧
          WritesScientific (isNegative leastPositive) 6 (significand * 10 ^ (exponent - 6)) exponent
            (resultText leastPositive).toList := by
  have finite : halfway.isFinite = true := by decide +kernel
  have leastFinite : leastPositive.isFinite = true := by decide +kernel
  have plain : InPlainRange (value halfway) :=
    needsExponent_eq_false_iff.mp (by decide +kernel)
  have outside : ¬ InPlainRange (value leastPositive) := by
    rw [← needsExponent_eq_false_iff]
    decide +kernel
  exact ⟨⟨finite, by decide +kernel, ((resultText_rounded finite).1 plain).1⟩,
    leastFinite, by decide +kernel, (resultText_rounded leastFinite).2.1 outside⟩

end Results

end Number

end Reckoner
