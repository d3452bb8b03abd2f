import Mathlib.Data.List.Basic
import Reckoner.Text.Casing
import Reckoner.Text.Letter

/-!
# Characters and their lower case

The lower case of an ASCII character is an ASCII character.  Of the other characters only the
Kelvin sign is lowered to an ASCII character: `k`.  So a text whose lower case has no other
characters than ASCII letters without `k` was an ASCII text, and its lower case is that of its
ASCII letters.

Only `İ` makes a text longer when it is lowered, and nothing is lowered to `İ`.  Every other
character is lowered to one character, which is its own lower case; it is the same character or a
letter.
-/

namespace Reckoner

namespace Text

theorem toNat_toLower (character : Char) :
    character.toLower.toNat =
      if 65 ≤ character.toNat ∧ character.toNat ≤ 90 then character.toNat + 32
      else character.toNat := by
  unfold Char.toLower
  split
  · next upper =>
      have least : 65 ≤ character.toNat := upper.1
      have greatest : character.toNat ≤ 90 := upper.2
      have sum : (character.val + ('a'.val - 'A'.val)).toNat = character.toNat + 32 := by
        have value : character.val.toNat = character.toNat := rfl
        simp
        omega
      rw [if_pos ⟨least, greatest⟩, ← sum]
      rfl
  · next other =>
      rw [if_neg]
      rintro ⟨least, greatest⟩
      exact other ⟨least, greatest⟩

theorem isAlpha_iff {character : Char} :
    character.isAlpha = true ↔
      65 ≤ character.toNat ∧ character.toNat ≤ 90 ∨
        97 ≤ character.toNat ∧ character.toNat ≤ 122 := by
  have upper : character.isUpper = true ↔ 65 ≤ character.toNat ∧ character.toNat ≤ 90 :=
    decide_eq_true_iff
  have lower : character.isLower = true ↔ 97 ≤ character.toNat ∧ character.toNat ≤ 122 :=
    Bool.and_eq_true_iff.trans (and_congr decide_eq_true_iff decide_eq_true_iff)
  rw [← upper, ← lower]
  exact Bool.or_eq_true_iff

theorem toNat_ofNat (code : Nat) :
    (Char.ofNat code).toNat = code ∨ (Char.ofNat code).toNat = 0 := by
  by_cases valid : code.isValidChar
  · left
    rw [Char.ofNat, dif_pos valid]
    rfl
  · right
    rw [Char.ofNat, dif_neg valid]
    rfl

namespace CaseRun

variable {run other : CaseRun} {code : Nat}

/-- The code point to which the run lowers one of its own. -/
def lowered (run : CaseRun) (code : Nat) : Nat :=
  ((code : Int) + run.distance).toNat

theorem contains_iff :
    run.contains code = true ↔
      run.first ≤ code ∧ code ≤ run.last ∧ (code - run.first) % run.step = 0 := by
  simp [contains, and_assoc]

end CaseRun

/-- A capital above ASCII is lowered along its run. -/
theorem lowerCode_cases (code : Nat) :
    lowerCode code = code ∨
      ∃ run ∈ lowerRuns, run.contains code = true ∧ lowerCode code = run.lowered code := by
  unfold lowerCode
  cases found : lowerRuns.find? (·.contains code) with
  | none => exact .inl rfl
  | some run =>
      have inside := List.find?_some found
      exact .inr ⟨run, List.mem_of_find?_eq_some found, inside, rfl⟩

section Dotted

/-- No run of capitals is lowered to the code point of `İ`. -/
theorem lowerRuns_miss : ∀ run ∈ lowerRuns, run.contains (0x130 - run.distance).toNat = false := by
  decide +kernel

theorem lowerCode_ne {code : Nat} (other : code ≠ 0x130) : lowerCode code ≠ 0x130 := by
  rcases lowerCode_cases code with same | ⟨run, member, inside, lowered⟩
  · rwa [same]
  · intro same
    have missed := lowerRuns_miss run member
    rw [lowered, CaseRun.lowered] at same
    have source : (0x130 - run.distance).toNat = code := by omega
    rw [source, inside] at missed
    contradiction

theorem not_mem_lowerCharacter (character : Char) : 'İ' ∉ lowerCharacter character := by
  have dotted : 'İ'.toNat = 0x130 := rfl
  unfold lowerCharacter
  split
  · next ascii =>
      rw [List.mem_singleton]
      intro lowered
      have code := congrArg Char.toNat lowered
      rw [toNat_toLower] at code
      split at code <;> omega
  · split
    · decide
    · next other =>
        rw [List.mem_singleton]
        intro lowered
        have code := congrArg Char.toNat lowered
        have source : character.toNat ≠ 0x130 := fun same => other (Char.toNat_inj.mp same)
        have different := lowerCode_ne source
        rcases toNat_ofNat (lowerCode character.toNat) with same | zero
        · omega
        · omega

theorem length_lowerCharacter {character : Char} (plain : character ≠ 'İ') :
    (lowerCharacter character).length = 1 := by
  unfold lowerCharacter
  rw [if_neg plain]
  split <;> rfl

theorem not_mem_lowerCharacters (characters : List Char) : 'İ' ∉ lowerCharacters characters := by
  intro member
  obtain ⟨character, _, lowered⟩ := List.mem_flatMap.mp member
  exact not_mem_lowerCharacter character lowered

theorem length_lowerCharacters {characters : List Char} (plain : 'İ' ∉ characters) :
    (lowerCharacters characters).length = characters.length := by
  induction characters with
  | nil => rfl
  | cons character rest induction =>
      rw [List.mem_cons, not_or] at plain
      have restLength := induction plain.2
      rw [lowerCharacters, List.flatMap_cons, List.length_append,
        length_lowerCharacter (Ne.symm plain.1), List.length_cons, Nat.add_comm]
      exact congrArg (· + 1) restLength

/-- Where lowering a run of characters gives a text around that run, there is nothing around it. -/
theorem lowerCharacters_around {before run behind : List Char}
    (same : lowerCharacters run = before ++ (run ++ behind)) : before = [] ∧ behind = [] := by
  have plain : 'İ' ∉ run := by
    intro member
    apply not_mem_lowerCharacters run
    rw [same]
    exact List.mem_append_right _ (List.mem_append_left _ member)
  have lengths := congrArg List.length same
  rw [length_lowerCharacters plain, List.length_append, List.length_append] at lengths
  constructor
  · exact List.eq_nil_of_length_eq_zero (by omega)
  · exact List.eq_nil_of_length_eq_zero (by omega)

end Dotted

section Plain

/-- A small ASCII letter, but for the lower case of the Kelvin sign. -/
def IsPlain (character : Char) : Prop :=
  97 ≤ character.toNat ∧ character.toNat ≤ 122 ∧ character.toNat ≠ 107

instance (character : Char) : Decidable (IsPlain character) :=
  inferInstanceAs (Decidable (_ ∧ _))

/-- The capitals above ASCII have small letters above ASCII, but for the Kelvin sign. -/
theorem lowerRuns_above : ∀ run ∈ lowerRuns, 0x80 ≤ (run.first : Int) + run.distance ∨
    run.first = run.last ∧ (run.first : Int) + run.distance = 107 := by
  decide +kernel

theorem lowerCode_above {code : Nat} (above : 0x80 ≤ code) :
    0x80 ≤ lowerCode code ∨ lowerCode code = 107 := by
  rcases lowerCode_cases code with same | ⟨run, member, inside, lowered⟩
  · omega
  · have bounds := CaseRun.contains_iff.mp inside
    rw [lowered, CaseRun.lowered]
    rcases lowerRuns_above run member with high | ⟨single, kelvin⟩ <;> omega

/-- Only ASCII characters have a plain lower case. -/
theorem ascii_of_isPlain_lowerCharacter {character : Char}
    (plain : ∀ lowered ∈ lowerCharacter character, IsPlain lowered) :
    character.toNat < 0x80 := by
  by_contra above
  unfold lowerCharacter at plain
  rw [if_neg above] at plain
  split at plain
  · have combining : IsPlain '\u0307' := plain _ (by simp)
    exact absurd combining (by decide)
  · have lowered := plain _ List.mem_cons_self
    unfold IsPlain at lowered
    have high := lowerCode_above (Nat.le_of_not_lt above)
    rcases toNat_ofNat (lowerCode character.toNat) with same | zero <;> omega

theorem lowerTextFrom_of_ascii (before : List Char) {characters : List Char}
    (ascii : ∀ character ∈ characters, character.toNat < 0x80) :
    lowerTextFrom before characters = characters.map Char.toLower := by
  induction characters generalizing before with
  | nil => rfl
  | cons character rest induction =>
      have first := ascii character List.mem_cons_self
      have noSigma : character ≠ 'Σ' := by
        rintro rfl
        exact absurd first (by decide)
      rw [lowerTextFrom, if_neg noSigma, lowerCharacter, if_pos first,
        induction _ fun other member => ascii other (List.mem_cons_of_mem _ member)]
      rfl

/-- The characters of a text with a plain lower case are ASCII characters. -/
theorem ascii_of_lowerTextFrom {before characters : List Char}
    (plain : ∀ lowered ∈ lowerTextFrom before characters, IsPlain lowered) :
    ∀ character ∈ characters, character.toNat < 0x80 := by
  induction characters generalizing before with
  | nil => simp
  | cons character rest induction =>
      rw [lowerTextFrom] at plain
      intro other member
      rcases List.mem_cons.mp member with rfl | inside
      · by_cases sigma : other = 'Σ'
        · rw [if_pos sigma] at plain
          split at plain
          · have final : IsPlain 'ς' := plain _ (by simp)
            exact absurd final (by decide)
          · have small : IsPlain 'σ' := plain _ (by simp)
            exact absurd small (by decide)
        · rw [if_neg sigma] at plain
          apply ascii_of_isPlain_lowerCharacter
          intro lowered small
          exact plain lowered (List.mem_append_left _ small)
      · refine @induction (character :: before) ?_ other inside
        intro lowered small
        exact plain lowered (List.mem_append_right _ small)

/-- For a plain word, the lower case of the whole text and that of its ASCII letters decide the
same. -/
theorem lowerText_eq_iff {characters word : List Char}
    (plain : ∀ character ∈ word, IsPlain character) :
    lowerText characters = word ↔ characters.map Char.toLower = word := by
  constructor
  · rintro rfl
    exact (lowerTextFrom_of_ascii [] (ascii_of_lowerTextFrom plain)).symm
  · rintro rfl
    apply lowerTextFrom_of_ascii
    intro character member
    have lowered : IsPlain character.toLower := plain _ (List.mem_map_of_mem member)
    unfold IsPlain at lowered
    rw [toNat_toLower] at lowered
    split at lowered <;> omega

end Plain

section Letters

/-- The small letters of a run lie among the letters, but for that of the Kelvin sign. -/
theorem lowerRuns_letters : ∀ run ∈ lowerRuns,
    (Nat.beq run.first 0x212A && Nat.beq run.last 0x212A || letterRanges.any fun range =>
      Nat.ble range.1 (run.lowered run.first) && Nat.ble (run.lowered run.last) range.2) =
      true := by
  decide +kernel

/-- Whether no small letter of the run is a capital of the other.  Where the small letters lie
among these capitals, every second code point is a small letter and every other one a capital. -/
def CaseRun.avoids (run other : CaseRun) : Bool :=
  Nat.blt (run.lowered run.last) other.first || Nat.blt other.last (run.lowered run.first) ||
    Nat.beq other.step 2 && (Nat.beq run.step 2 || Nat.beq run.first run.last) &&
      Nat.beq ((run.lowered run.first - other.first) % 2) 1

theorem lowerRuns_avoid : ∀ run ∈ lowerRuns, lowerRuns.all run.avoids = true := by
  decide +kernel

/-- The ranges of letters hold characters, and none of ASCII. -/
theorem letterRanges_valid : ∀ range ∈ letterRanges, 0xAA ≤ range.1 ∧
    (range.2 < 0xD800 ∨ 0xDFFF < range.1 ∧ range.2 < 0x110000) := by
  decide +kernel

theorem CaseRun.not_contains_lowered {run other : CaseRun} {code : Nat}
    (avoids : run.avoids other = true) (inside : run.contains code = true) :
    ¬other.contains (run.lowered code) = true := by
  obtain ⟨least, greatest, step⟩ := contains_iff.mp inside
  rw [contains_iff]
  rintro ⟨otherLeast, otherGreatest, otherStep⟩
  simp only [CaseRun.avoids, lowered, Bool.or_eq_true, Bool.and_eq_true, Nat.blt_eq, Nat.beq_eq]
    at avoids
  unfold lowered at otherLeast otherGreatest otherStep
  rcases avoids with (below | above) | ⟨⟨two, alternate | single⟩, odd⟩
  · omega
  · omega
  · rw [two] at otherStep
    rw [alternate] at step
    omega
  · rw [two] at otherStep
    omega

/-- What a run has lowered is not lowered again. -/
theorem lowerCode_lowered {run : CaseRun} (member : run ∈ lowerRuns) {code : Nat}
    (inside : run.contains code = true) : lowerCode (run.lowered code) = run.lowered code := by
  have avoids := List.all_eq_true.mp (lowerRuns_avoid run member)
  have none : lowerRuns.find? (·.contains (run.lowered code)) = none :=
    List.find?_eq_none.mpr fun other otherMember =>
      CaseRun.not_contains_lowered (avoids other otherMember) inside
  rw [lowerCode, none]

/-- Besides the Kelvin sign the capitals of a run are lowered to letters. -/
theorem letter_of_lowered {run : CaseRun} (member : run ∈ lowerRuns) {code : Nat}
    (inside : run.contains code = true) :
    code = 0x212A ∨ letterRanges.contains (run.lowered code) = true := by
  obtain ⟨least, greatest, _⟩ := CaseRun.contains_iff.mp inside
  have letters := lowerRuns_letters run member
  rw [Bool.or_eq_true, Bool.and_eq_true, Nat.beq_eq, Nat.beq_eq] at letters
  rcases letters with ⟨first, last⟩ | letters
  · left
    omega
  · right
    obtain ⟨range, rangeMember, within⟩ := List.any_eq_true.mp letters
    rw [Bool.and_eq_true, Nat.ble_eq, Nat.ble_eq] at within
    unfold CaseRun.lowered at within ⊢
    refine List.any_eq_true.mpr ⟨range, rangeMember, ?_⟩
    rw [Bool.and_eq_true, decide_eq_true_eq, decide_eq_true_eq]
    omega

theorem isValidChar_of_letter {code : Nat} (letter : letterRanges.contains code = true) :
    0xAA ≤ code ∧ code.isValidChar := by
  obtain ⟨range, member, within⟩ := List.any_eq_true.mp letter
  simp only [Bool.and_eq_true, decide_eq_true_eq] at within
  have valid := letterRanges_valid range member
  unfold Nat.isValidChar
  omega

theorem lowerCharacter_of_ascii {character : Char} (ascii : character.toNat < 0x80) :
    lowerCharacter character = [character.toLower] ∧
      lowerCharacter character.toLower = [character.toLower] ∧
      (character.toLower = character ∨ isLetter character.toLower = true) := by
  have small := toNat_toLower character
  have smallAscii : character.toLower.toNat < 0x80 := by
    split at small <;> omega
  have fixed : character.toLower.toLower = character.toLower := by
    apply Char.toNat_inj.mp
    rw [toNat_toLower]
    split at small <;> split <;> omega
  refine ⟨if_pos ascii, ?_, ?_⟩
  · rw [lowerCharacter, if_pos smallAscii, fixed]
  · by_cases upper : 65 ≤ character.toNat ∧ character.toNat ≤ 90
    · right
      apply isLetter_of_isAlpha
      rw [if_pos upper] at small
      exact isAlpha_iff.mpr (.inr (by omega))
    · left
      apply Char.toNat_inj.mp
      rw [small, if_neg upper]

theorem lowerCharacter_of_code {character : Char} (above : 0x80 ≤ character.toNat)
    (plain : character ≠ 'İ') :
    lowerCharacter character = [Char.ofNat (lowerCode character.toNat)] := by
  rw [lowerCharacter, if_neg (Nat.not_lt.mpr above), if_neg plain]

/-- The lower case of a character is its own lower case, and the same character or a letter. -/
theorem lowerCharacter_eq_singleton {character : Char} (plain : character ≠ 'İ') :
    ∃ small, lowerCharacter character = [small] ∧ lowerCharacter small = [small] ∧
      (small = character ∨ isLetter small = true) := by
  by_cases ascii : character.toNat < 0x80
  · exact ⟨character.toLower, lowerCharacter_of_ascii ascii⟩
  · have above := Nat.le_of_not_lt ascii
    have lower := lowerCharacter_of_code above plain
    have dotless := not_mem_lowerCharacter character
    rcases lowerCode_cases character.toNat with same | ⟨run, member, inside, lowered⟩
    · rw [same, Char.ofNat_toNat] at lower
      exact ⟨character, lower, lower, .inl rfl⟩
    · rcases letter_of_lowered member inside with kelvin | letter
      · have sign : character = '\u212A' := Char.toNat_inj.mp kelvin
        subst sign
        exact ⟨'k', by decide +kernel, by decide +kernel, .inr (by decide +kernel)⟩
      · obtain ⟨high, valid⟩ := isValidChar_of_letter letter
        have code : (Char.ofNat (run.lowered character.toNat)).toNat =
            run.lowered character.toNat := by
          rw [Char.ofNat, dif_pos valid]
          rfl
        rw [lowered] at lower
        rw [lower, List.mem_singleton] at dotless
        refine ⟨_, lower, ?_, .inr ?_⟩
        · rw [lowerCharacter_of_code (by omega) (Ne.symm dotless), code,
            lowerCode_lowered member inside]
        · rw [isLetter, code, letter, Bool.or_true]

/-- Lowering a second time changes nothing. -/
theorem lowerCharacters_lowerCharacters {characters : List Char} (plain : 'İ' ∉ characters) :
    lowerCharacters (lowerCharacters characters) = lowerCharacters characters := by
  induction characters with
  | nil => rfl
  | cons character rest induction =>
      rw [List.mem_cons, not_or] at plain
      obtain ⟨small, lower, fixed, _⟩ := lowerCharacter_eq_singleton (Ne.symm plain.1)
      have restSame := induction plain.2
      unfold lowerCharacters at restSame ⊢
      rw [List.flatMap_cons, lower, List.singleton_append, List.flatMap_cons, fixed, restSame,
        List.singleton_append]

/-- The lower case of a text has its characters and letters. -/
theorem of_mem_lowerCharacters {characters : List Char} {small : Char} (plain : 'İ' ∉ characters)
    (member : small ∈ lowerCharacters characters) :
    small ∈ characters ∨ isLetter small = true := by
  obtain ⟨character, inside, lowered⟩ := List.mem_flatMap.mp member
  have dotless : character ≠ 'İ' := by
    rintro rfl
    exact plain inside
  obtain ⟨other, lower, _, same | letter⟩ := lowerCharacter_eq_singleton dotless
  · rw [lower, same, List.mem_singleton] at lowered
    exact .inl (lowered ▸ inside)
  · rw [lower, List.mem_singleton] at lowered
    exact .inr (lowered ▸ letter)

end Letters

end Text

end Reckoner
