import Reckoner.Proofs.Token.Spacing

/-!
# Where the end of the input is placed

The token for the end stands one position behind the place at which the reader last looked for
something new.  Where that was a blank, or where there was nothing to read, this is behind the whole
text.  Where it was the last piece of the text, only the first character of the piece counts, so a
number or a name of more than one character leaves the end of the input inside itself.
-/

namespace Reckoner

namespace Token

/-- The text from the given position on ends with this piece, which is the last token. -/
def EndsWith (position : Nat) (text : List Char) (tokens : List Token) (run : List Char) : Prop :=
  ∃ before token, text = before ++ run ∧ tokens.getLast? = some token ∧
    token.position = position + before.length ∧ Lexeme [] run token.kind

/-- The place of the end: behind a last blank, or one position behind the start of a last piece. -/
structure PlacesEnd (position : Nat) (text : List Char) (tokens : List Token) (place : Nat) :
    Prop where
  blank : ∀ character ∈ text.getLast?, Text.isBlank character = true →
    place = position + text.length
  solid : ∀ character ∈ text.getLast?, Text.isBlank character = false →
    ∃ run, EndsWith position text tokens run ∧ place + run.length = position + text.length + 1

variable {text run other front : List Char} {tokens earlier : List Token} {position place : Nat}

theorem EndsWith.behind (ends : EndsWith (position + front.length) text tokens run) :
    EndsWith position (front ++ text) (earlier ++ tokens) run := by
  obtain ⟨before, token, rfl, last, start, lexeme⟩ := ends
  refine ⟨front ++ before, token, (List.append_assoc front before run).symm, ?_, ?_, lexeme⟩
  · rw [List.getLast?_append, last, Option.some_or]
  · rw [start, List.length_append, Nat.add_assoc]

/-- Where the last token starts says how long it is. -/
theorem EndsWith.unique (ends : EndsWith position text tokens run)
    (otherEnds : EndsWith position text tokens other) : run = other := by
  obtain ⟨before, token, whole, last, start, _⟩ := ends
  obtain ⟨front, otherToken, otherWhole, otherLast, otherStart, _⟩ := otherEnds
  cases Option.some.inj (last.symm.trans otherLast)
  have length : before.length = front.length := Nat.add_left_cancel (start.symm.trans otherStart)
  exact (List.append_inj (whole.symm.trans otherWhole) length).2

theorem EndsWith.last_solid (ends : EndsWith position text tokens run) :
    ∃ character ∈ text.getLast?, Text.isBlank character = false := by
  obtain ⟨before, token, rfl, _, _, lexeme⟩ := ends
  have last := List.getLast?_eq_some_getLast lexeme.ne_nil
  refine ⟨run.getLast lexeme.ne_nil, ?_, lexeme.solid _ (List.getLast_mem lexeme.ne_nil)⟩
  rw [List.getLast?_append, last, Option.some_or]
  rfl

/-- What stands in front of a text does not matter for the place of the end behind it. -/
theorem PlacesEnd.behind (nonempty : text ≠ [])
    (places : PlacesEnd (position + front.length) text tokens place) :
    PlacesEnd position (front ++ text) (earlier ++ tokens) place := by
  have last : (front ++ text).getLast? = text.getLast? := by
    rw [List.getLast?_append, List.getLast?_eq_some_getLast nonempty, Option.some_or]
  have length : position + (front ++ text).length = position + front.length + text.length := by
    rw [List.length_append, Nat.add_assoc]
  constructor
  · rw [last, length]
    exact places.blank
  · rw [last, length]
    intro character member solid
    obtain ⟨run, ends, lengths⟩ := places.solid character member solid
    exact ⟨run, ends.behind, lengths⟩

theorem Scans.tokens_eq_nil {rest : List Char} (scans : Scans rest position [] tokens) :
    tokens = [] := by
  generalize whole : [] = text at scans
  cases scans with
  | done => rfl
  | blank => cases whole
  | piece lexeme => exact absurd (List.append_eq_nil_iff.mp whole.symm).1 lexeme.ne_nil

/-- The reader closes the tokens of a text with an end in its place. -/
theorem Scans.readFrom_finish (scans : Scans [] position text tokens) (finish : Nat) :
    ∃ place, readFrom 0 position finish text = .ok (tokens ++ [⟨.finish, place⟩]) ∧
      (text = [] → place = finish) ∧ PlacesEnd position text tokens place := by
  induction scans generalizing finish with
  | done => exact ⟨finish, rfl, fun _ => rfl, by constructor <;> simp⟩
  | @blank position character text tokens blank scans induction =>
      obtain ⟨place, read, started, places⟩ := induction (position + 1)
      refine ⟨place, (readFrom_blank blank).trans read, by simp, ?_⟩
      by_cases empty : text = []
      · subst empty
        have start : place = position + 1 := started rfl
        constructor <;> simp [blank, start]
      · change PlacesEnd position ([character] ++ text) ([] ++ tokens) place
        exact places.behind empty
  | @piece position run text kind tokens lexeme scans induction =>
      obtain ⟨place, read, started, places⟩ := induction (position + 1)
      refine ⟨place, by rw [lexeme.readFrom_eq, read]; rfl, ?_, ?_⟩
      · exact fun empty => absurd (List.append_eq_nil_iff.mp empty).1 lexeme.ne_nil
      by_cases empty : text = []
      · -- the token is the last one, and the end goes behind its first character
        subst empty
        cases scans.tokens_eq_nil
        have start : place = position + 1 := started rfl
        have ends : EndsWith position run [⟨kind, position⟩] run :=
          ⟨[], ⟨kind, position⟩, rfl, rfl, rfl, lexeme⟩
        rw [List.append_nil]
        constructor
        · intro character member blank
          have solid := lexeme.solid character (List.mem_of_mem_getLast? member)
          exact absurd blank (Bool.eq_false_iff.mp solid)
        · exact fun _ _ _ => ⟨run, ends, by omega⟩
      · change PlacesEnd position (run ++ text) ([⟨kind, position⟩] ++ tokens) place
        exact places.behind empty

/-- The end of the input is placed behind the whole text, except that of a piece with which the text
ends only the first character is counted: behind the text it stands exactly if this piece is a
single character, or if there is none because the text is empty or ends with a blank. -/
theorem readAll_finish {text : String} (read : readAll text = .ok tokens) :
    ∃ front place, tokens = front ++ [⟨.finish, place⟩] ∧ Scans [] 0 text.toList front ∧
      ((∃ run, EndsWith 0 text.toList front run) ↔
        ∃ character ∈ text.toList.getLast?, Text.isBlank character = false) ∧
      (∀ run, EndsWith 0 text.toList front run →
        place + run.length = text.toList.length + 1) ∧
      ((∀ run, ¬ EndsWith 0 text.toList front run) → place = text.toList.length) ∧
      (place = text.toList.length ↔
        ∀ run, EndsWith 0 text.toList front run → run.length = 1) := by
  obtain ⟨front, _, _, scans, _⟩ := scans_of_readAll read
  obtain ⟨place, run, started, places⟩ := scans.readFrom_finish 0
  have ended : ∀ run, EndsWith 0 text.toList front run →
      place + run.length = text.toList.length + 1 := by
    intro run ends
    obtain ⟨character, member, solid⟩ := ends.last_solid
    obtain ⟨last, lastEnds, length⟩ := places.solid character member solid
    rw [ends.unique lastEnds, length, Nat.zero_add]
  have unended : (∀ run, ¬ EndsWith 0 text.toList front run) → place = text.toList.length := by
    intro none
    cases last : text.toList.getLast? with
    | none =>
        have empty := List.getLast?_eq_none_iff.mp last
        rw [started empty, empty, List.length_nil]
    | some character =>
        by_cases blank : Text.isBlank character = true
        · rw [places.blank character last blank, Nat.zero_add]
        · obtain ⟨run, ends, _⟩ := places.solid character last (Bool.eq_false_iff.mpr blank)
          exact absurd ends (none run)
  have tokensEq := Except.ok.inj (read.symm.trans run)
  refine ⟨front, place, tokensEq, scans, ⟨?_, ?_⟩, ended, unended, ?_, ?_⟩
  · exact fun ⟨run, ends⟩ => ends.last_solid
  · rintro ⟨character, member, solid⟩
    obtain ⟨run, ends, _⟩ := places.solid character member solid
    exact ⟨run, ends⟩
  · intro behind run ends
    have length := ended run ends
    omega
  · intro single
    by_cases some : ∃ run, EndsWith 0 text.toList front run
    · obtain ⟨run, ends⟩ := some
      have length := ended run ends
      have one := single run ends
      omega
    · exact unended (not_exists.mp some)

/-- In `7 * x_2` the end is placed behind the `x`, two positions in front of the end of the text. -/
theorem readAll_finish_of_name :
    readAll "7 * x_2" = .ok [⟨.number 7, 0⟩, ⟨.operator '*', 2⟩, ⟨.identifier "x_2", 4⟩,
      ⟨.finish, 5⟩] ∧
    ∃ run, EndsWith 0 "7 * x_2".toList [⟨.number 7, 0⟩, ⟨.operator '*', 2⟩,
      ⟨.identifier "x_2", 4⟩] run ∧ 5 + run.length = 8 := by
  have read : readAll "7 * x_2" = .ok [⟨.number 7, 0⟩, ⟨.operator '*', 2⟩,
      ⟨.identifier "x_2", 4⟩, ⟨.finish, 5⟩] := by
    decide +kernel
  obtain ⟨front, place, same, _, exists_iff, ended, _⟩ := readAll_finish read
  obtain ⟨rfl, last⟩ := @List.append_inj' _ [_, _, _] _ _ _ same rfl
  cases last
  obtain ⟨run, ends⟩ := exists_iff.mpr ⟨'2', rfl, by decide⟩
  exact ⟨read, run, ends, ended run ends⟩

/-- The end of the input is not always placed behind the whole text. -/
theorem readAll_finish_of_digits :
    ¬ ∀ (text : String) (tokens : List Token), readAll text = .ok tokens →
      ∀ token ∈ tokens.getLast?, token.position = text.toList.length := by
  intro always
  have read : readAll "12" = .ok [⟨.number 12, 0⟩, ⟨.finish, 1⟩] := by decide +kernel
  have behind : 1 = 2 := always "12" _ read ⟨.finish, 1⟩ rfl
  omega

end Token

end Reckoner
