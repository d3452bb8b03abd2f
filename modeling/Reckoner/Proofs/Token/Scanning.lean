import Reckoner.Proofs.Token.Lexemes

/-!
# How the reader divides a text

`Token.Scans` says, apart from the reader, how a text is divided into tokens up to some rest: from
left to right, into blanks and pieces, every token at the place where its piece starts.  Every text
is divided up to its end or up to an obstacle (`exists_scans`), and the reader finds the tokens or
the error accordingly (`readAll_exact`).  In front of an obstacle the text is divided as if it ended
there.
-/

namespace Reckoner

namespace Token

/-- The text from the given position on consists of these tokens, with blanks around them, and the
rest. -/
inductive Scans (rest : List Char) : Nat → List Char → List Token → Prop where
  | done {position : Nat} : Scans rest position rest []
  | blank {position : Nat} {character : Char} {text : List Char} {tokens : List Token} :
      Text.isBlank character = true → Scans rest (position + 1) text tokens →
      Scans rest position (character :: text) tokens
  | piece {position : Nat} {run text : List Char} {kind : TokenKind} {tokens : List Token} :
      Lexeme text run kind → Scans rest (position + run.length) text tokens →
      Scans rest position (run ++ text) (⟨kind, position⟩ :: tokens)

variable {rest text run bad : List Char} {kind : TokenKind} {token : Token}
  {tokens front later : List Token} {position finish : Nat} {error : LexError}

/-- The text that is divided stands in front of the rest, and is divided alike without it. -/
theorem Scans.before (scans : Scans rest position text tokens) :
    ∃ before, text = before ++ rest ∧ Scans [] position before tokens ∧
      ∀ character ∈ before,
        Text.isBlank character = true ∨ Token.startsPiece character = true := by
  induction scans with
  | done => exact ⟨[], rfl, .done, by simp⟩
  | blank blank _ induction =>
      obtain ⟨before, rfl, scans, inside⟩ := induction
      exact ⟨_ :: before, rfl, .blank blank scans, List.forall_mem_cons.mpr ⟨.inl blank, inside⟩⟩
  | @piece position run text kind tokens lexeme _ induction =>
      obtain ⟨before, rfl, scans, inside⟩ := induction
      refine ⟨run ++ before, (List.append_assoc run before rest).symm, .piece lexeme.shorten scans,
        List.forall_mem_append.mpr ⟨?_, inside⟩⟩
      exact fun character member => .inr (lexeme.startsPiece character member)

theorem readFrom_blank {character : Char} (blank : Text.isBlank character = true) :
    readFrom 0 position finish (character :: text) =
      readFrom 0 (position + 1) (position + 1) text := by
  rw [readFrom, if_pos blank]

/-- Behind a piece the reader goes on. -/
theorem Lexeme.readFrom_eq (lexeme : Lexeme text run kind) (position finish : Nat) :
    readFrom 0 position finish (run ++ text) =
      (readFrom 0 (position + run.length) (position + 1) text).map (⟨kind, position⟩ :: ·) := by
  obtain ⟨character, tail, rfl, solid, read⟩ := lexeme.read
  have enough : tail.length ≤ (tail ++ text).length := by simp
  have place : position + 1 + tail.length = position + (character :: tail).length := by
    rw [List.length_cons]
    omega
  rw [List.cons_append, readFrom, if_neg (Bool.eq_false_iff.mp solid), read]
  dsimp only
  rw [Nat.add_sub_cancel, readFrom_skip _ _ _ _ enough, List.drop_left, place]
  cases readFrom 0 (position + (character :: tail).length) (position + 1) text <;> rfl

/-- What is divided is read; then the reader stands at the rest.  Where only the place of the end
is missing, the end is placed behind the last character if that is a blank or a mark. -/
theorem Scans.readFrom_eq (scans : Scans rest position text tokens) (finish : Nat) :
    ∃ before place, text = before ++ rest ∧
      readFrom 0 position finish text =
        (readFrom 0 (position + before.length) place rest).map (tokens ++ ·) ∧
      ((∀ token ∈ tokens.getLast?, token.kind.isMark = true) →
        (tokens = [] → finish = position) → place = position + before.length) := by
  induction scans generalizing finish with
  | @done position =>
      refine ⟨[], finish, rfl, ?_, fun _ started => started rfl⟩
      cases readFrom 0 position finish rest <;> rfl
  | @blank position character text tokens blank _ induction =>
      obtain ⟨before, place, rfl, run, last⟩ := induction (position + 1)
      have length : position + 1 + before.length = position + (character :: before).length := by
        rw [List.length_cons]
        omega
      rw [length] at run last
      exact ⟨character :: before, place, rfl, (readFrom_blank blank).trans run,
        fun marked _ => last marked fun _ => rfl⟩
  | @piece position run text kind tokens lexeme _ induction =>
      obtain ⟨before, place, rfl, behind, last⟩ := induction (position + 1)
      have length : position + run.length + before.length = position + (run ++ before).length := by
        rw [List.length_append]
        omega
      rw [length] at behind last
      refine ⟨run ++ before, place, (List.append_assoc run before rest).symm, ?_, ?_⟩
      · rw [lexeme.readFrom_eq, behind]
        cases readFrom 0 (position + (run ++ before).length) place rest <;> rfl
      · intro marked _
        cases tokens with
        | nil =>
            have single := lexeme.length_of_isMark (marked _ rfl)
            exact last (by simp) fun _ => by rw [single]
        | cons token tokens => exact last marked (by simp)

/-- Every text is divided up to its end or up to an obstacle. -/
theorem exists_scans (position : Nat) (text : List Char) :
    ∃ tokens, Scans [] position text tokens ∨ ∃ before bad error, text = before ++ bad ∧
      Scans bad position text tokens ∧ Obstructs (position + before.length) bad error := by
  induction h : text.length using Nat.strong_induction_on generalizing position text with
  | _ length induction =>
      cases text with
      | nil => exact ⟨[], .inl .done⟩
      | cons character tail =>
          by_cases blank : Text.isBlank character = true
          · obtain ⟨tokens, whole | ⟨before, bad, error, rfl, scans, obstructs⟩⟩ :=
              induction tail.length (by simp [← h]) (position + 1) tail rfl
            · exact ⟨tokens, .inl (.blank blank whole)⟩
            · refine ⟨tokens, .inr ⟨character :: before, bad, error, rfl, .blank blank scans, ?_⟩⟩
              rwa [List.length_cons, Nat.add_comm before.length, ← Nat.add_assoc]
          · rcases exists_lexeme tail (Bool.eq_false_iff.mpr blank) with
              ⟨run, rest, kind, whole, lexeme⟩ | obstacle
            · rw [whole] at h ⊢
              have shorter : rest.length < length := by
                have nonempty := List.length_pos_of_ne_nil lexeme.ne_nil
                rw [List.length_append] at h
                omega
              obtain ⟨tokens, whole | ⟨before, bad, error, rfl, scans, obstructs⟩⟩ :=
                induction rest.length shorter (position + run.length) rest rfl
              · exact ⟨_, .inl (.piece lexeme whole)⟩
              · refine ⟨_, .inr ⟨run ++ before, bad, error, ?_, .piece lexeme scans, ?_⟩⟩
                · exact (List.append_assoc run before bad).symm
                · rwa [List.length_append, ← Nat.add_assoc]
            · obtain ⟨error, obstructs⟩ := obstacle position
              exact ⟨[], .inr ⟨[], character :: tail, error, rfl, .done, obstructs⟩⟩

/-- A text that is divided up to its end is read, and nothing but the end follows its tokens. -/
theorem Scans.readFrom_ok (scans : Scans [] position text tokens) (finish : Nat) :
    ∃ place, readFrom 0 position finish text = .ok (tokens ++ [⟨.finish, place⟩]) ∧
      ((∀ token ∈ tokens.getLast?, token.kind.isMark = true) →
        (tokens = [] → finish = position) → place = position + text.length) := by
  obtain ⟨before, place, rfl, run, last⟩ := scans.readFrom_eq finish
  rw [List.append_nil] at run ⊢
  exact ⟨place, run, last⟩

/-- The error of the first obstacle is reported. -/
theorem Scans.readFrom_error {before : List Char}
    (scans : Scans bad position (before ++ bad) tokens)
    (obstructs : Obstructs (position + before.length) bad error) (finish : Nat) :
    readFrom 0 position finish (before ++ bad) = .error error := by
  obtain ⟨others, place, same, run, _⟩ := scans.readFrom_eq finish
  obtain ⟨character, tail, rfl, solid, refused⟩ := obstructs.read
  rw [← List.append_cancel_right same] at run
  rw [run, readFrom, if_neg (Bool.eq_false_iff.mp solid), refused]
  rfl

/-- The tokens up to some token divide the text in front of it. -/
theorem Scans.split (scans : Scans rest position text (front ++ token :: later)) :
    ∃ before run behind, text = before ++ (run ++ behind) ∧
      token.position = position + before.length ∧ Lexeme behind run token.kind ∧
      Scans (run ++ behind) position text front ∧
      Scans rest (token.position + run.length) behind later := by
  generalize whole : front ++ token :: later = tokens at scans
  induction scans generalizing front with
  | done => simp at whole
  | blank blank _ induction =>
      obtain ⟨before, run, behind, rfl, place, lexeme, inFront, others⟩ := induction whole
      refine ⟨_ :: before, run, behind, rfl, ?_, lexeme, .blank blank inFront, others⟩
      rw [place, List.length_cons]
      omega
  | @piece position run text kind tokens lexeme scans induction =>
      cases front with
      | nil =>
          obtain ⟨rfl, rfl⟩ := List.cons.inj whole
          exact ⟨[], run, text, rfl, rfl, lexeme, .done, scans⟩
      | cons first front =>
          obtain ⟨rfl, same⟩ := List.cons.inj whole
          obtain ⟨before, others, behind, rfl, place, found, inFront, remaining⟩ := induction same
          refine ⟨run ++ before, others, behind, (List.append_assoc run before _).symm, ?_, found,
            .piece lexeme inFront, remaining⟩
          rw [place, List.length_append]
          omega

/-- Where there are no tokens, there are blanks. -/
theorem Scans.blanks (scans : Scans rest position text []) :
    ∃ blanks, text = blanks ++ rest ∧ ∀ character ∈ blanks, Text.isBlank character = true := by
  generalize whole : ([] : List Token) = tokens at scans
  induction scans with
  | done => exact ⟨[], rfl, by simp⟩
  | blank blank _ induction =>
      obtain ⟨blanks, rfl, others⟩ := induction whole
      exact ⟨_ :: blanks, rfl, List.forall_mem_cons.mpr ⟨blank, others⟩⟩
  | piece => cases whole

/-- A text that has been divided up to its end is divided alike in front of more text, if no piece
goes on there. -/
theorem Scans.lexes (scans : Scans [] position text tokens)
    (noNumber : ∀ character ∈ rest.head?, startsNumber character = false)
    (noName : ∀ character ∈ rest.head?, continuesName character = false) :
    Lexes text (tokens.map Token.kind) rest := by
  induction scans with
  | done => exact lexes_nil rest
  | blank blank _ induction => exact (lexes_blank blank _).append induction
  | piece lexeme _ induction =>
      obtain ⟨character, tail, rfl, solid, read⟩ := (lexeme.extend noNumber noName).read
      exact (lexes_token solid read).append induction

theorem Scans.kind_ne_finish (scans : Scans rest position text tokens) :
    ∀ token ∈ tokens, token.kind ≠ .finish := by
  induction scans with
  | done => simp
  | blank _ _ induction => exact induction
  | piece lexeme _ induction =>
      refine List.forall_mem_cons.mpr ⟨?_, induction⟩
      cases lexeme <;> simp

/-- Every token stands behind the one before it, and so does the end. -/
theorem readFrom_increasing {skip : Nat} (read : readFrom skip position finish text = .ok tokens)
    (started : finish ≤ position + skip) :
    tokens.Pairwise (fun token other => token.position < other.position) ∧
      ∀ token ∈ tokens, finish ≤ token.position := by
  induction text generalizing skip position finish tokens with
  | nil =>
      cases read
      simp
  | cons character text induction =>
      cases skip with
      | succ skip => exact induction read (by omega)
      | zero =>
          rw [readFrom] at read
          split at read
          · obtain ⟨increasing, above⟩ := induction read (by omega)
            refine ⟨increasing, fun token member => ?_⟩
            have behind := above token member
            omega
          · split at read
            · cases read
            · split at read
              · cases read
              · next othersEq =>
                  cases read
                  obtain ⟨increasing, above⟩ := induction othersEq (by omega)
                  refine ⟨List.pairwise_cons.mpr ⟨above, increasing⟩,
                    List.forall_mem_cons.mpr ⟨started, fun token member => ?_⟩⟩
                  have behind := above token member
                  omega

theorem readAll_increasing {text : String} (read : readAll text = .ok tokens) :
    tokens.Pairwise (fun token other => token.position < other.position) :=
  (readFrom_increasing read (Nat.zero_le _)).1

/-- The tokens that are read divide the text.  The end stands behind the whole text if the last
token is a mark, or if there is none. -/
theorem scans_of_readAll {text : String} (read : readAll text = .ok tokens) :
    ∃ front place, tokens = front ++ [⟨.finish, place⟩] ∧ Scans [] 0 text.toList front ∧
      ((∀ token ∈ front.getLast?, token.kind.isMark = true) → place = text.toList.length) := by
  obtain ⟨front, scans | ⟨before, bad, error, whole, scans, obstructs⟩⟩ :=
    exists_scans 0 text.toList
  · obtain ⟨place, run, last⟩ := scans.readFrom_ok 0
    refine ⟨front, place, Except.ok.inj (read.symm.trans run), scans, fun marked => ?_⟩
    rw [last marked fun _ => rfl, Nat.zero_add]
  · rw [whole] at scans
    rw [readAll, readAllCharacters, whole, scans.readFrom_error obstructs] at read
    cases read

/-- The error that is reported is the one of an obstacle, up to which the text is divided. -/
theorem obstructs_of_readAll {text : String} (read : readAll text = .error error) :
    ∃ before bad front, text.toList = before ++ bad ∧ Scans bad 0 text.toList front ∧
      Obstructs before.length bad error := by
  obtain ⟨front, scans | ⟨before, bad, other, whole, scans, obstructs⟩⟩ :=
    exists_scans 0 text.toList
  · obtain ⟨place, run, _⟩ := scans.readFrom_ok 0
    exact absurd (read.symm.trans run) (by simp)
  · refine ⟨before, bad, front, whole, scans, ?_⟩
    rw [whole] at scans
    rw [readAll, readAllCharacters, whole, scans.readFrom_error obstructs] at read
    cases read
    rwa [Nat.zero_add] at obstructs

/-- The reader finds exactly the tokens into which a text is divided, or the error of the first
obstacle, in front of which the text is read as if it ended there. -/
theorem readAll_exact (text : String) :
    (∀ tokens, readAll text = .ok tokens →
      ∃ front place, tokens = front ++ [⟨.finish, place⟩] ∧ Scans [] 0 text.toList front ∧
        ∀ token ∈ front, token.kind ≠ .finish) ∧
    (∀ front, Scans [] 0 text.toList front →
      ∃ place, readAll text = .ok (front ++ [⟨.finish, place⟩])) ∧
    (∀ error, readAll text = .error error ↔
      ∃ before bad front, text.toList = before ++ bad ∧ Scans bad 0 text.toList front ∧
        Obstructs before.length bad error) ∧
    ∀ before bad front, text.toList = before ++ bad → Scans bad 0 text.toList front →
      (∃ place, readAll (String.ofList before) = .ok (front ++ [⟨.finish, place⟩])) ∧
      ∀ character ∈ before,
        Text.isBlank character = true ∨ startsPiece character = true := by
  have accepted : ∀ {text : String} {front}, Scans [] 0 text.toList front →
      ∃ place, readAll text = .ok (front ++ [⟨.finish, place⟩]) := by
    intro text front scans
    obtain ⟨place, read, _⟩ := scans.readFrom_ok 0
    exact ⟨place, read⟩
  refine ⟨fun tokens read => ?_, fun front scans => accepted scans,
    fun error => ⟨obstructs_of_readAll, ?_⟩, fun before bad front whole scans => ?_⟩
  · obtain ⟨front, place, same, scans, _⟩ := scans_of_readAll read
    exact ⟨front, place, same, scans, scans.kind_ne_finish⟩
  · rintro ⟨before, bad, front, whole, scans, obstructs⟩
    rw [whole] at scans
    rw [readAll, readAllCharacters, whole]
    exact scans.readFrom_error (by rwa [Nat.zero_add]) 0
  · obtain ⟨others, same, shorter, inside⟩ := scans.before
    rw [whole] at same
    rw [← List.append_cancel_right same] at shorter inside
    refine ⟨accepted ?_, inside⟩
    rwa [String.toList_ofList]

end Token

end Reckoner
