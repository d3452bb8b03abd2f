import Reckoner.Number.Shortest
import Reckoner.Proofs.Number.Encoding
import Reckoner.Token.Lexing

/-!
# Numbers read back

The decimal that is written for a double reads back as the same double.  The search accepts a
decimal only where reading it gives the encoding back, and on the finest grid the value itself
lies, so whatever it returns reads back; how short it is does not matter here.

Reading stops where the number ends, so the characters of a decimal are read the same way in front
of any text that cannot go on with a number.
-/

namespace Reckoner

namespace Number

/-- A quotient rounds in the same way when both sides are scaled up. -/
theorem roundDiv_mul_right (numerator denominator : Nat) {factor : Nat} (positive : 0 < factor) :
    roundDiv (numerator * factor) (denominator * factor) = roundDiv numerator denominator := by
  have quotient : numerator * factor / (denominator * factor) = numerator / denominator :=
    Nat.mul_div_mul_right numerator denominator positive
  have remainder : numerator * factor % (denominator * factor) =
      numerator % denominator * factor := Nat.mul_mod_mul_right factor numerator denominator
  have below : 2 * (numerator % denominator * factor) < denominator * factor ↔
      2 * (numerator % denominator) < denominator := by
    rw [← Nat.mul_assoc]
    exact Nat.mul_lt_mul_right positive
  have above : denominator * factor < 2 * (numerator % denominator * factor) ↔
      denominator < 2 * (numerator % denominator) := by
    rw [← Nat.mul_assoc]
    exact Nat.mul_lt_mul_right positive
  simp only [roundDiv, quotient, remainder, below, above]

theorem nearestBits_mul_right (numerator denominator : Nat) {factor : Nat}
    (positive : 0 < factor) :
    nearestBits (numerator * factor) (denominator * factor) =
      nearestBits numerator denominator := by
  have quotient : numerator * factor / (denominator * factor) = numerator / denominator :=
    Nat.mul_div_mul_right numerator denominator positive
  simp only [nearestBits, quotient]
  rw [Nat.mul_right_comm denominator factor, roundDiv_mul_right _ _ positive]

theorem log2_mul_pow {number : Nat} (nonzero : number ≠ 0) (exponent : Nat) :
    (number * Nat.pow 2 exponent).log2 = number.log2 + exponent := by
  induction exponent with
  | zero => exact congrArg Nat.log2 (Nat.mul_one number)
  | succ exponent induction =>
      have positive : 0 < Nat.pow 2 exponent := Nat.pow_pos (by decide)
      have doubled : number * Nat.pow 2 (exponent + 1) = 2 * (number * Nat.pow 2 exponent) := by
        calc
          number * Nat.pow 2 (exponent + 1) = number * (Nat.pow 2 exponent * 2) := rfl
          _ = 2 * (number * Nat.pow 2 exponent) := by rw [← Nat.mul_assoc, Nat.mul_comm]
      rw [doubled, Nat.log2_two_mul (Nat.mul_ne_zero nonzero (Nat.ne_of_gt positive)), induction]
      rfl

theorem pow_five_mul_pow_two (places : Nat) :
    Nat.pow 5 places * Nat.pow 2 places = Nat.pow 10 places :=
  (Nat.mul_pow 5 2 places).symm

/-- The double nearest to the number of units of a finite double is that double. -/
theorem nearestBits_unitsOfBits {bits : Nat} (finite : bits < infinityBits) :
    nearestBits (unitsOfBits bits) 1 = bits := by
  by_cases least : bits < bitsPerScale
  · have log : bits.log2 - 52 = 0 := by
      by_cases zero : bits = 0
      · rw [zero]
        rfl
      · have below : bits.log2 < 52 := (Nat.log2_lt zero).mpr least
        omega
    have rounded : roundDiv bits (1 * Nat.pow 2 0) = bits := by
      have whole := roundDiv_mul_left bits Nat.one_pos
      rw [Nat.mul_one] at whole
      exact whole
    rw [unitsOfBits, if_pos least, nearestBits, Nat.div_one, log, rounded]
    omega
  · have parts := Nat.div_add_mod bits bitsPerScale
    have fraction : bits % bitsPerScale < bitsPerScale := Nat.mod_lt _ (by decide)
    have scale : 1 ≤ bits / bitsPerScale :=
      (Nat.one_le_div_iff (by decide)).mpr (Nat.not_lt.mp least)
    have nonzero : bitsPerScale + bits % bitsPerScale ≠ 0 := by
      rw [bitsPerScale_eq]
      omega
    have log : (bitsPerScale + bits % bitsPerScale).log2 = 52 := by
      rw [Nat.log2_eq_iff nonzero]
      rw [bitsPerScale_eq] at fraction ⊢
      omega
    have logUnits := log2_mul_pow nonzero (bits / bitsPerScale - 1)
    have positive : 0 < Nat.pow 2 (bits / bitsPerScale - 1) := Nat.pow_pos (by decide)
    rw [unitsOfBits, if_neg least, nearestBits, Nat.div_one, logUnits, log, Nat.add_sub_cancel_left,
      Nat.one_mul, roundDiv_mul_left _ positive]
    rw [infinityBits_eq] at finite ⊢
    rw [bitsPerScale_eq] at *
    omega

theorem bitsOfDecimal_hitOnGrid {bits : Nat} {exponent : Int} {decimal : Decimal}
    (hit : hitOnGrid bits exponent = some decimal) : bitsOfDecimal decimal = bits := by
  unfold hitOnGrid at hit
  dsimp only at hit
  split at hit
  · next lower =>
      split at hit
      · next upper =>
          cases hit
          exact upper.1
      · cases hit
        exact lower
  · split at hit
    · next upper =>
        cases hit
        exact upper
    · cases hit

/-- On a fine enough grid the units of a double are counted exactly. -/
theorem nearestBits_grid (count places : Nat) :
    nearestBits (count * Nat.pow 5 places * Nat.pow 2 places) (Nat.pow 10 places) =
      nearestBits count 1 := by
  have positive : 0 < Nat.pow 10 places := Nat.pow_pos (by decide)
  have scaled := nearestBits_mul_right count 1 positive
  rw [Nat.one_mul] at scaled
  rw [Nat.mul_assoc, pow_five_mul_pow_two, scaled]

theorem unitsPerOne_eq : unitsPerOne = Nat.pow 2 finestPlaces := by
  rw [unitsPerOne, finestPlaces]

theorem bitsOfDecimal_finest {bits : Nat} (finite : bits < infinityBits) :
    bitsOfDecimal ⟨onFinestGrid (unitsOfBits bits), finestPlaces⟩ = bits := by
  simp only [bitsOfDecimal, onFinestGrid, unitsPerOne_eq]
  rw [nearestBits_grid, nearestBits_unitsOfBits finite]

theorem bitsOfDecimal_searchGrids {bits : Nat} (finite : bits < infinityBits) (level : Nat) :
    bitsOfDecimal (searchGrids bits level) = bits := by
  induction level with
  | zero =>
      rw [searchGrids]
      exact bitsOfDecimal_finest finite
  | succ level induction =>
      rw [searchGrids]
      cases found : hitOnGrid bits (Int.ofNat (level + 1) - finestPlaces) with
      | some decimal => exact bitsOfDecimal_hitOnGrid found
      | none => exact induction

/-- The shortest decimal reads back. -/
theorem bitsOfDecimal_shortestOfBits {bits : Nat} (finite : bits < infinityBits) :
    bitsOfDecimal (shortestOfBits bits) = bits := by
  unfold shortestOfBits
  split
  · next zero =>
      rw [zero, bitsOfDecimal, Nat.zero_mul]
      rfl
  · exact bitsOfDecimal_searchGrids finite _

theorem toFloat_shortest {number : Float} (finite : number.isFinite = true) :
    (shortest number).toFloat false = ofMagnitudeBits false (magnitudeBits number) :=
  congrArg (ofMagnitudeBits false) (bitsOfDecimal_shortestOfBits (isFinite_iff.mp finite))

/-- A finite number is written with its sign and its shortest decimal. -/
theorem characters_of_isFinite {number : Float} (finite : number.isFinite = true) :
    characters number = signCharacters number ++ (shortest number).characters := by
  have unpacked : number.toModel.unpack.isFinite = true := finite
  have defined : number.isNaN = false ∧ number.isInf = false := by
    change number.toModel.unpack.isNaN = false ∧ number.toModel.unpack.isInf = false
    cases kind : number.toModel.unpack with
    | infinity sign =>
        rw [kind] at unpacked
        contradiction
    | notANumber =>
        rw [kind] at unpacked
        contradiction
    | zero sign => exact ⟨rfl, rfl⟩
    | finite sign mantissa exponent positive => exact ⟨rfl, rfl⟩
  rw [characters, if_neg (Bool.eq_false_iff.mp defined.1),
    if_neg (Bool.eq_false_iff.mp defined.2)]

/-- The double that stands for all quotients too large for a finite one. -/
def infinity : Float :=
  ofMagnitudeBits false infinityBits

theorem isNegative_infinity : isNegative infinity = false :=
  rfl

theorem characters_infinity : characters infinity = ['i', 'n', 'f'] :=
  rfl

/-- A double without a sign, finite or infinite. -/
structure Unsigned (number : Float) : Prop where
  nonnegative : isNegative number = false
  defined : number.isFinite = true ∨ number = infinity

theorem toFloat_unsigned (decimal : Decimal) : Unsigned (decimal.toFloat false) := by
  have bitsEq : decimal.toFloat false = ofMagnitudeBits false (bitsOfDecimal decimal) := rfl
  have within : bitsOfDecimal decimal ≤ infinityBits := Nat.min_le_left _ _
  rcases Nat.lt_or_eq_of_le within with finite | infinite
  · have encoding := @toBits_ofMagnitudeBits false _ finite
    obtain ⟨nonnegative, magnitude⟩ := of_toBits_eq finite encoding
    rw [bitsEq]
    exact ⟨nonnegative, .inl (isFinite_iff.mpr (magnitude.symm ▸ finite))⟩
  · rw [bitsEq, infinite]
    exact ⟨isNegative_infinity, .inr rfl⟩

end Number

namespace Decimal

variable {left right digits : List Char} {width value : Nat}

theorem valueOf_eq_ofDigitChars (digits : List Char) :
    valueOf digits = Nat.ofDigitChars 10 digits 0 :=
  Nat.ofDigitChars_eq_foldl.symm

theorem valueOf_append :
    valueOf (left ++ right) = Nat.pow 10 right.length * valueOf left + valueOf right := by
  rw [valueOf_eq_ofDigitChars, valueOf_eq_ofDigitChars, valueOf_eq_ofDigitChars,
    Nat.ofDigitChars_append]
  exact Nat.ofDigitChars_eq_ofDigitChars_zero

theorem valueOf_toDigits (value : Nat) : valueOf (Nat.toDigits 10 value) = value :=
  (valueOf_eq_ofDigitChars _).trans Nat.ofDigitChars_ten_toDigits

theorem valueOf_replicate_zero (count : Nat) : valueOf (List.replicate count '0') = 0 := by
  rw [valueOf_eq_ofDigitChars, Nat.ofDigitChars_replicate_zero, Nat.mul_zero]

/-- Zeros in front of a number do not change its value. -/
theorem valueOf_padded (width value : Nat) : valueOf (padded width value) = value := by
  unfold padded
  rw [valueOf_append, valueOf_replicate_zero, valueOf_toDigits, Nat.mul_zero, Nat.zero_add]

theorem length_padded (wide : 0 < width) (fits : value < Nat.pow 10 width) :
    (padded width value).length = width := by
  have short : (Nat.toDigits 10 value).length ≤ width :=
    (Nat.length_toDigits_le_iff (by decide) wide).mpr fits
  unfold padded
  rw [List.length_append, List.length_replicate]
  omega

theorem isDigit_of_mem_toDigits {character : Char} (member : character ∈ Nat.toDigits 10 value) :
    character.isDigit = true :=
  Nat.isDigit_of_mem_toDigits (by decide) (by decide) member

theorem isDigit_of_mem_padded {character : Char} (member : character ∈ padded width value) :
    character.isDigit = true := by
  unfold padded at member
  rcases List.mem_append.mp member with zero | digit
  · rw [(List.mem_replicate.mp zero).2]
    rfl
  · exact isDigit_of_mem_toDigits digit

/-- The digits in front of the point and those behind it are the digits of the decimal. -/
theorem ofDigits_padded {digits places : Nat} (positive : 0 < places) :
    ofDigits (Nat.toDigits 10 (digits / Nat.pow 10 places))
      (padded places (digits % Nat.pow 10 places)) = ⟨digits, places⟩ := by
  have fits : digits % Nat.pow 10 places < Nat.pow 10 places :=
    Nat.mod_lt _ (Nat.pow_pos (by decide))
  have length := length_padded positive fits
  have whole : valueOf (Nat.toDigits 10 (digits / Nat.pow 10 places) ++
      padded places (digits % Nat.pow 10 places)) = digits := by
    rw [valueOf_append, length, valueOf_toDigits, valueOf_padded]
    exact Nat.div_add_mod digits (Nat.pow 10 places)
  rw [ofDigits, whole, length]

theorem ofDigits_whole (digits : Nat) : ofDigits (Nat.toDigits 10 digits) [] = ⟨digits, 0⟩ := by
  rw [ofDigits, List.append_nil, valueOf_toDigits]
  rfl

end Decimal

namespace Token

variable {accepts : Char → Bool} {run rest digits fraction : List Char}

/-- A run of characters ends where a character does not belong to it. -/
theorem takeWhile_run (inside : ∀ character ∈ run, accepts character = true)
    (stop : ∀ character ∈ rest.head?, accepts character = false) :
    (run ++ rest).takeWhile accepts = run ∧ (run ++ rest).dropWhile accepts = rest := by
  rw [List.takeWhile_append_of_pos inside, List.dropWhile_append_of_pos inside]
  cases rest with
  | nil => simp
  | cons character rest =>
      have stopped : accepts character = false := stop character rfl
      simp [stopped]

theorem isDigit_false_of_startsNumber {character : Char} (stop : startsNumber character = false) :
    character.isDigit = false ∧ character ≠ '.' := by
  simpa [startsNumber] using stop

theorem readNumber_whole (inside : ∀ character ∈ digits, character.isDigit = true)
    (stop : ∀ character ∈ rest.head?, startsNumber character = false) :
    readNumber (digits ++ rest) =
      .ok ((Decimal.ofDigits digits []).toFloat false, digits.length) := by
  obtain ⟨taken, dropped⟩ := takeWhile_run inside
    fun character member => (isDigit_false_of_startsNumber (stop character member)).1
  unfold readNumber
  dsimp only
  rw [taken, dropped]
  cases rest with
  | nil => rfl
  | cons character rest =>
      have noPoint := (isDigit_false_of_startsNumber (stop character rfl)).2
      split
      · next same =>
          cases same
          contradiction
      · rfl

theorem readNumber_point (inside : ∀ character ∈ digits, character.isDigit = true)
    (nonempty : digits ≠ [] ∨ fraction ≠ [])
    (behind : ∀ character ∈ fraction, character.isDigit = true)
    (stop : ∀ character ∈ rest.head?, startsNumber character = false) :
    readNumber (digits ++ '.' :: fraction ++ rest) =
      .ok ((Decimal.ofDigits digits fraction).toFloat false,
        digits.length + 1 + fraction.length) := by
  have pointStops : ∀ character ∈ ('.' :: (fraction ++ rest)).head?, character.isDigit = false := by
    simp
  obtain ⟨taken, dropped⟩ := takeWhile_run inside pointStops
  obtain ⟨fractionTaken, fractionDropped⟩ := takeWhile_run behind
    fun character member => (isDigit_false_of_startsNumber (stop character member)).1
  unfold readNumber
  dsimp only
  rw [List.append_assoc, List.cons_append, taken, dropped]
  split
  · next same =>
      cases same
      rw [fractionTaken, fractionDropped]
      have written : ¬(digits.isEmpty && fraction.isEmpty) = true := by
        rcases nonempty with some | some <;> simp [some]
      cases rest with
      | nil => exact if_neg written
      | cons character rest =>
          have noPoint := (isDigit_false_of_startsNumber (stop character rfl)).2
          split
          · next same =>
              cases same
              contradiction
          · exact if_neg written
  · next other => exact absurd rfl (other _)

/-- The characters of a decimal are read as the double nearest to it. -/
theorem readNumber_characters (decimal : Decimal)
    (stop : ∀ character ∈ rest.head?, startsNumber character = false) :
    readNumber (decimal.characters ++ rest) =
      .ok (decimal.toFloat false, decimal.characters.length) := by
  obtain ⟨digits, places⟩ := decimal
  unfold Decimal.characters
  dsimp only
  split
  · next whole =>
      have one : digits / Nat.pow 10 places = digits := by
        rw [whole]
        exact Nat.div_one digits
      have inside : ∀ character ∈ Nat.toDigits 10 digits, character.isDigit = true :=
        fun _ => Decimal.isDigit_of_mem_toDigits
      rw [one, readNumber_whole inside stop, Decimal.ofDigits_whole, whole]
  · next pointed =>
      have inside : ∀ character ∈ Nat.toDigits 10 (digits / Nat.pow 10 places),
          character.isDigit = true := fun _ => Decimal.isDigit_of_mem_toDigits
      have behind : ∀ character ∈ Decimal.padded places (digits % Nat.pow 10 places),
          character.isDigit = true := fun _ => Decimal.isDigit_of_mem_padded
      rw [readNumber_point inside (.inl Nat.toDigits_ne_nil) behind stop,
        Decimal.ofDigits_padded (Nat.pos_of_ne_zero pointed)]
      simp only [List.length_append, List.length_cons, Nat.add_assoc, Nat.add_comm 1]

end Token

end Reckoner
