import Reckoner.Text.Casing

/-!
# Two ways to lower a text

A whole text and its characters are lowered alike, except for a capital sigma that ends a word.
Both ways give a text of the same length.
-/

namespace Reckoner

namespace Text

/-- Some capital sigma stands behind a cased character of its word and in front of none. -/
def HasFinalSigma (characters : List Char) : Prop :=
  ∃ before behind, characters = before ++ 'Σ' :: behind ∧
    startsCased before.reverse = true ∧ startsCased behind = false

theorem lowerCharacters_cons (character : Char) (rest : List Char) :
    lowerCharacters (character :: rest) = lowerCharacter character ++ lowerCharacters rest :=
  List.flatMap_cons

theorem lowerCharacters_append (first second : List Char) :
    lowerCharacters (first ++ second) = lowerCharacters first ++ lowerCharacters second :=
  List.flatMap_append

theorem lowerCharacter_sigma : lowerCharacter 'Σ' = ['σ'] := by
  decide

theorem lowerCharacter_ne_nil (character : Char) : lowerCharacter character ≠ [] := by
  unfold lowerCharacter
  split
  · simp
  · split <;> simp

/-- No character is lost. -/
theorem length_le_lowerCharacters (characters : List Char) :
    characters.length ≤ (lowerCharacters characters).length := by
  induction characters with
  | nil => exact Nat.le_refl 0
  | cons character rest induction =>
      have written := List.length_pos_iff.mpr (lowerCharacter_ne_nil character)
      rw [lowerCharacters_cons, List.length_append, List.length_cons]
      omega

/-- The lower case of a character between those that have been passed and the rest. -/
theorem lowerTextFrom_cons (before rest : List Char) (character : Char) :
    ∃ lowered, lowerTextFrom before (character :: rest) =
        lowered ++ lowerTextFrom (character :: before) rest ∧
      lowered.length = (lowerCharacter character).length ∧
      (lowered = lowerCharacter character ↔
        (character = 'Σ' → startsCased before = true → startsCased rest = true)) := by
  refine ⟨_, rfl, ?_, ?_⟩
  · split
    · next sigma =>
        rw [sigma, lowerCharacter_sigma]
        split <;> rfl
    · rfl
  · split
    · next sigma =>
        rw [sigma, lowerCharacter_sigma]
        cases startsCased before <;> cases startsCased rest <;> simp
    · next other => simp [other]

theorem length_lowerTextFrom (before characters : List Char) :
    (lowerTextFrom before characters).length = (lowerCharacters characters).length := by
  induction characters generalizing before with
  | nil => rfl
  | cons character rest induction =>
      obtain ⟨lowered, whole, length, _⟩ := lowerTextFrom_cons before rest character
      rw [whole, lowerCharacters_cons, List.length_append, List.length_append, length, induction]

/-- The characters that have been passed matter for a sigma only. -/
theorem lowerTextFrom_eq_iff (before characters : List Char) :
    lowerTextFrom before characters = lowerCharacters characters ↔
      ∀ front behind, characters = front ++ 'Σ' :: behind →
        startsCased (front.reverse ++ before) = true → startsCased behind = true := by
  induction characters generalizing before with
  | nil => simp [lowerTextFrom, lowerCharacters]
  | cons character rest induction =>
      obtain ⟨lowered, whole, length, first⟩ := lowerTextFrom_cons before rest character
      have later := induction (character :: before)
      rw [whole, lowerCharacters_cons]
      constructor
      · intro same front behind split cased
        obtain ⟨firstSame, laterSame⟩ := List.append_inj same length
        cases front with
        | nil =>
            obtain ⟨rfl, rfl⟩ := List.cons.inj split
            exact first.mp firstSame rfl cased
        | cons other front =>
            obtain ⟨rfl, inRest⟩ := List.cons.inj split
            rw [List.reverse_cons, List.append_assoc] at cased
            exact later.mp laterSame front behind inRest cased
      · intro goesOn
        have firstSame : lowered = lowerCharacter character := by
          refine first.mpr fun sigma cased => ?_
          exact goesOn [] rest (by rw [sigma]; rfl) cased
        have laterSame := later.mpr fun front behind split cased => by
          refine goesOn (character :: front) behind (by rw [split]; rfl) ?_
          rwa [List.reverse_cons, List.append_assoc]
        rw [firstSame, laterSame]

theorem lowerText_eq_lowerCharacters_iff {characters : List Char} :
    lowerText characters = lowerCharacters characters ↔ ¬ HasFinalSigma characters := by
  rw [lowerText, lowerTextFrom_eq_iff]
  constructor
  · rintro plain ⟨before, behind, whole, cased, uncased⟩
    have goesOn := plain before behind whole (by rwa [List.append_nil])
    rw [goesOn] at uncased
    cases uncased
  · intro plain front behind whole cased
    rw [List.append_nil] at cased
    cases goesOn : startsCased behind with
    | true => rfl
    | false => exact absurd ⟨front, behind, whole, cased, goesOn⟩ plain

end Text

end Reckoner
