import Reckoner.Proofs.Text.Words
import Reckoner.Proofs.Token.Scanning

/-!
# Blanks between tokens

What is read from a text depends on its words only: how many blanks there are between two words,
and which, only moves the tokens.  `Token.unplaced` is what is left of the tokens, or of the error,
without positions, and two texts with the same words leave the same (`unplaced_readAll_eq`).

The proof reads both texts in step, piece by piece.  A piece ends inside its word or with it, so the
texts behind two equal pieces have the same words again.
-/

namespace Reckoner

/-- Results that agree in this way have both failed, or are the same value. -/
theorem mapError_eq_cases {α ε δ : Type} {erase : ε → δ} {result other : Except ε α}
    (same : result.mapError erase = other.mapError erase) :
    (∃ error otherError, result = .error error ∧ other = .error otherError ∧
        erase error = erase otherError) ∨
      ∃ value, result = .ok value ∧ other = .ok value := by
  cases result with
  | error error =>
      cases other with
      | error otherError => exact .inl ⟨error, otherError, rfl, rfl, Except.error.inj same⟩
      | ok otherValue => cases same
  | ok value =>
      cases other with
      | error otherError => cases same
      | ok otherValue =>
          cases same
          exact .inr ⟨value, rfl, rfl⟩

/-- The error without its position. -/
def LexError.unplaced : LexError → LexError
  | .invalidCharacter character _ => .invalidCharacter character 0
  | .malformedNumber literal _ => .malformedNumber literal 0

namespace Token

/-- The kinds of the tokens that have been read, or the error without its position. -/
def unplaced (read : Except LexError (List Token)) : Except LexError (List TokenKind) :=
  (read.map (List.map Token.kind)).mapError LexError.unplaced

/-- What is read from a text, without positions. -/
def kindsOf (text : List Char) : Except LexError (List TokenKind) :=
  unplaced (readFrom 0 0 0 text)

variable {character : Char} {text other run rest : List Char} {kind : TokenKind}
  {position : Nat} {error : LexError}

theorem unplaced_cons (token : Token) (read : Except LexError (List Token)) :
    unplaced (read.map (token :: ·)) = (unplaced read).map (token.kind :: ·) := by
  cases read <;> rfl

theorem readOne_unplaced (position place : Nat) (character : Char) (rest : List Char) :
    (readOne position character rest).mapError LexError.unplaced =
      (readOne place character rest).mapError LexError.unplaced := by
  unfold readOne
  split
  · rfl
  · split
    · rfl
    · split
      · rfl
      · split
        · rfl
        · split
          · cases readNumber (character :: rest) <;> rfl
          · split <;> rfl

theorem readFrom_ok {count : Nat} (solid : Text.isBlank character = false)
    (read : readOne position character rest = .ok (kind, count)) (finish : Nat) :
    readFrom 0 position finish (character :: rest) =
      (readFrom (count - 1) (position + 1) (position + 1) rest).map (⟨kind, position⟩ :: ·) := by
  rw [readFrom, if_neg (Bool.eq_false_iff.mp solid), read]
  dsimp only
  cases readFrom (count - 1) (position + 1) (position + 1) rest <;> rfl

theorem readFrom_error (solid : Text.isBlank character = false)
    (read : readOne position character rest = .error error) (finish : Nat) :
    readFrom 0 position finish (character :: rest) = .error error := by
  rw [readFrom, if_neg (Bool.eq_false_iff.mp solid), read]

/-- It does not matter at which position the text starts. -/
theorem unplaced_readFrom (skip position finish : Nat) (text : List Char) :
    unplaced (readFrom skip position finish text) = unplaced (readFrom skip 0 0 text) := by
  induction text generalizing skip position finish with
  | nil => rfl
  | cons character rest induction =>
      have anywhere : ∀ skip, unplaced (readFrom skip (position + 1) (position + 1) rest) =
          unplaced (readFrom skip 1 1 rest) :=
        fun skip => (induction skip _ _).trans (induction skip _ _).symm
      cases skip with
      | succ skip => exact (induction skip _ _).trans (induction skip _ _).symm
      | zero =>
          by_cases blank : Text.isBlank character = true
          · rw [readFrom_blank blank, readFrom_blank blank]
            exact anywhere 0
          · have solid := Bool.eq_false_iff.mpr blank
            rcases mapError_eq_cases (readOne_unplaced position 0 character rest) with
              ⟨error, other, read, start, same⟩ | ⟨⟨kind, count⟩, read, start⟩
            · rw [readFrom_error solid read, readFrom_error solid start]
              exact congrArg Except.error same
            · rw [readFrom_ok solid read, readFrom_ok solid start, unplaced_cons, unplaced_cons,
                anywhere]

theorem kindsOf_blank (blank : Text.isBlank character = true) :
    kindsOf (character :: text) = kindsOf text := by
  rw [kindsOf, readFrom_blank blank, unplaced_readFrom]
  rfl

theorem Lexeme.kindsOf_eq (lexeme : Lexeme text run kind) :
    kindsOf (run ++ text) = (kindsOf text).map (kind :: ·) := by
  rw [kindsOf, lexeme.readFrom_eq, unplaced_cons, unplaced_readFrom]
  rfl

theorem Obstructs.kindsOf_eq (obstructs : Obstructs position text error) :
    kindsOf text = .error error.unplaced := by
  obtain ⟨character, tail, rfl, solid, refused⟩ := obstructs.read
  rw [kindsOf, ← unplaced_readFrom 0 position 0, readFrom_error solid refused]
  rfl

/-! ## Two texts in step -/

theorem isBlank_of_startsNumber (starts : startsNumber character = true) :
    Text.isBlank character = false :=
  (readOne_of_startsNumber starts 0 []).1

theorem Lexeme.solid (lexeme : Lexeme rest run kind) :
    ∀ character ∈ run, Text.isBlank character = false := by
  cases lexeme with
  | leftParenthesis => exact List.forall_mem_singleton.mpr (by decide)
  | rightParenthesis => exact List.forall_mem_singleton.mpr (by decide)
  | comma => exact List.forall_mem_singleton.mpr (by decide)
  | operator operator => exact List.forall_mem_singleton.mpr (by cases operator <;> decide)
  | number inside _ _ _ _ =>
      exact fun character member => isBlank_of_startsNumber (inside character member)
  | name starts inside _ =>
      exact List.forall_mem_cons.mpr ⟨isBlank_of_startsName starts,
        fun character member => isBlank_of_continuesName (inside character member)⟩

/-- A piece stays a piece if only blanks change behind it. -/
theorem Lexeme.respaced (lexeme : Lexeme rest run kind)
    (same : Text.splitWord rest = Text.splitWord other) : Lexeme other run kind := by
  cases lexeme with
  | leftParenthesis => exact .leftParenthesis
  | rightParenthesis => exact .rightParenthesis
  | comma => exact .comma
  | operator operator => exact .operator operator
  | number inside digit points stop rounds =>
      apply Lexeme.number inside digit points _ rounds
      exact Text.stop_of_splitWord_eq same (fun _ => isBlank_of_startsNumber) stop
  | name starts inside stop =>
      apply Lexeme.name starts inside
      exact Text.stop_of_splitWord_eq same (fun _ => isBlank_of_continuesName) stop

/-- An obstacle stays an obstacle, too. -/
theorem Obstructs.respaced (obstructs : Obstructs position text error)
    (same : Text.splitWord text = Text.splitWord other) : Obstructs position other error := by
  cases obstructs with
  | @character character behind solid nothing =>
      obtain ⟨rest, rfl, _⟩ := @Text.exists_rest_of_run behind other [character]
        (List.forall_mem_singleton.mpr solid) same
      exact .character solid nothing
  | @point behind stop =>
      obtain ⟨rest, rfl, remaining⟩ := @Text.exists_rest_of_run behind other ['.']
        (List.forall_mem_singleton.mpr (by decide)) same
      apply Obstructs.point
      exact Text.stop_of_splitWord_eq remaining (fun _ => isBlank_of_startsNumber) stop
  | @secondPoint digits fraction behind inside fractionInside =>
      have solid : ∀ character ∈ digits ++ '.' :: fraction ++ ['.'],
          Text.isBlank character = false := by
        simp only [List.mem_append, List.mem_cons, List.not_mem_nil, or_false]
        rintro character ((digit | rfl | digit) | rfl)
        · exact isBlank_of_isDigit (inside character digit)
        · decide
        · exact isBlank_of_isDigit (fractionInside character digit)
        · decide
      have whole : ∀ behind, digits ++ '.' :: fraction ++ '.' :: behind =
          (digits ++ '.' :: fraction ++ ['.']) ++ behind := by
        simp
      rw [whole] at same
      obtain ⟨rest, rfl, _⟩ := Text.exists_rest_of_run solid same
      rw [← whole]
      exact .secondPoint inside fractionInside

theorem kindsOf_trimStart (text : List Char) : kindsOf (Text.trimStart text) = kindsOf text := by
  induction text with
  | nil => rfl
  | cons character text induction =>
      by_cases blank : Text.isBlank character = true
      · rw [kindsOf_blank blank, Text.trimStart_blank blank, induction]
      · rw [Text.trimStart_solid (Bool.eq_false_iff.mpr blank)]

/-- One step of both texts: the same piece, with the same words behind it, or the same obstacle. -/
theorem kindsOf_step {tail : List Char} (solid : Text.isBlank character = false)
    (same : Text.splitWord (character :: tail) = Text.splitWord other) :
    kindsOf (character :: tail) = kindsOf other ∨
      ∃ kind rest behind, rest.length ≤ tail.length ∧
        Text.splitWord rest = Text.splitWord behind ∧
        kindsOf (character :: tail) = (kindsOf rest).map (kind :: ·) ∧
        kindsOf other = (kindsOf behind).map (kind :: ·) := by
  rcases exists_lexeme tail solid with ⟨run, rest, kind, whole, lexeme⟩ | obstacle
  · have shorter : rest.length ≤ tail.length := by
      have nonempty := List.length_pos_of_ne_nil lexeme.ne_nil
      have lengths := congrArg List.length whole
      rw [List.length_cons, List.length_append] at lengths
      omega
    rw [whole] at same ⊢
    obtain ⟨behind, rfl, remaining⟩ := Text.exists_rest_of_run lexeme.solid same
    exact .inr ⟨kind, rest, behind, shorter, remaining, lexeme.kindsOf_eq,
      (lexeme.respaced remaining).kindsOf_eq⟩
  · obtain ⟨error, obstructs⟩ := obstacle 0
    left
    rw [obstructs.kindsOf_eq, (obstructs.respaced same).kindsOf_eq]

/-- Two texts without blanks in front and with the same words are read in step. -/
theorem kindsOf_eq_of_start (starts : ∀ character ∈ text.head?, Text.isBlank character = false)
    (otherStarts : ∀ character ∈ other.head?, Text.isBlank character = false)
    (same : Text.words text = Text.words other) : kindsOf text = kindsOf other := by
  induction size : text.length using Nat.strong_induction_on generalizing text other with
  | _ size induction =>
      cases text with
      | nil =>
          cases other with
          | nil => rfl
          | cons first more =>
              rw [Text.words_solid (otherStarts first rfl)] at same
              cases same
      | cons character tail =>
          have solid := starts character rfl
          cases other with
          | nil =>
              rw [Text.words_solid solid] at same
              cases same
          | cons first more =>
              have split := Text.splitWord_eq_of_words_eq same solid (otherStarts first rfl)
              rcases kindsOf_step solid split with
                done | ⟨kind, rest, behind, shorter, remaining, step, otherStep⟩
              · exact done
              · have trimmed : (Text.trimStart rest).length ≤ rest.length :=
                  (List.dropWhile_suffix Text.isBlank).length_le
                have sameRest : Text.words (Text.trimStart rest) =
                    Text.words (Text.trimStart behind) := by
                  rw [Text.words_trimStart, Text.words_trimStart]
                  exact Text.words_eq_of_splitWord_eq remaining
                rw [List.length_cons] at size
                rw [step, otherStep, ← kindsOf_trimStart rest, ← kindsOf_trimStart behind]
                rw [induction (Text.trimStart rest).length (by omega)
                  (fun _ => Text.head_trimStart) (fun _ => Text.head_trimStart) sameRest rfl]

/-- Two texts with the same words have the same kinds of tokens, or the same error. -/
theorem kindsOf_eq (same : Text.words text = Text.words other) : kindsOf text = kindsOf other := by
  rw [← kindsOf_trimStart text, ← kindsOf_trimStart other]
  apply kindsOf_eq_of_start (fun _ => Text.head_trimStart) (fun _ => Text.head_trimStart)
  rw [Text.words_trimStart, Text.words_trimStart, same]

theorem unplaced_readAll_eq {text other : String}
    (same : Text.words text.toList = Text.words other.toList) :
    unplaced (readAll text) = unplaced (readAll other) :=
  kindsOf_eq same

end Token

end Reckoner
