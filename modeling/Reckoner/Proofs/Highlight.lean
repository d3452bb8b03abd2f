import Reckoner.Builtin
import Reckoner.Highlight
import Reckoner.Proofs.Token.Scanning

/-!
# Spans and tokens

The text that is coloured is cut where the reader of tokens cuts it.  Nothing is lost
(`spansFrom_characters`), and where a token stands there is one span, with the characters of the
token and the style of its kind (`spansFrom_lexeme`).  So the spans of a text that can be read are
its tokens, with single blanks between them (`spans_tokens`).

The two work differently: the reader looks for the end of a number or a name, whereas the spans are
cut one character later, where a character belongs to another run.  They agree because what follows
a run that has ended is coloured as if it stood alone (`spansFrom_finished`).
-/

namespace Reckoner

namespace Highlight

open Terminal (Span Style)

variable {environment : Environment} {base : Style} {run : Run} {current rest text : List Char}
  {character : Char} {kind : TokenKind} {tokens : List Token} {position : Nat}

/-! ## Nothing is lost -/

theorem runSpan_characters (environment : Environment) (base : Style) (run : Option Run)
    (characters : List Char) :
    (runSpan environment base run characters).flatMap Span.characters = characters := by
  unfold runSpan
  split
  · next empty => exact (List.isEmpty_iff.mp empty).symm
  · exact List.append_nil characters

theorem singleSpan_characters (base : Style) (character : Char) :
    (singleSpan base character).characters = [character] := by
  unfold singleSpan
  split
  · rfl
  · split <;> rfl

theorem spansFrom_characters (run : Option Run) (current text : List Char) :
    (spansFrom environment base run current text).flatMap Span.characters =
      current.reverse ++ text := by
  induction text generalizing run current with
  | nil =>
      rw [spansFrom, runSpan_characters, List.append_nil]
  | cons character rest induction =>
      unfold spansFrom
      dsimp only
      split
      · rw [induction, List.reverse_cons, List.append_assoc]
        rfl
      · split
        · rw [List.flatMap_append, runSpan_characters, induction]
          rfl
        · rw [List.flatMap_append, List.flatMap_cons, runSpan_characters, singleSpan_characters,
            induction]
          rfl

/-! ## Where a run ends -/

/-- Whether a character goes on with a run. -/
def Run.continues : Run → Char → Bool
  | .name => Token.continuesName
  | .number => Token.startsNumber

theorem startsName_of_startsNumber (starts : Token.startsNumber character = true) :
    Token.startsName character = false := by
  by_contra other
  have name := Bool.eq_true_of_not_eq_false other
  rw [Token.startsNumber, Token.isDigit_of_startsName name, Bool.false_or, beq_iff_eq] at starts
  rw [starts] at other
  exact other (by decide +kernel)

/-- A character that goes on with a run belongs to it. -/
theorem runOf_continues (continues : run.continues character = true) :
    runOf (some run) character = some run := by
  cases run with
  | name =>
      apply if_pos
      rw [Run.continues, Token.continuesName, Bool.or_right_comm] at continues
      exact continues
  | number =>
      have noName : ¬ (Token.startsName character || false) = true := by
        simp [startsName_of_startsNumber continues]
      exact (if_neg noName).trans (if_pos continues)

/-- A character that does not go on with a run belongs to what it would belong to without it. -/
theorem runOf_stops (stops : run.continues character = false) :
    runOf (some run) character = runOf none character ∧
      runOf (some run) character ≠ some run := by
  cases run with
  | name =>
      rw [Run.continues, Token.continuesName, Bool.or_eq_false_iff, Bool.or_eq_false_iff] at stops
      obtain ⟨⟨noLetter, noDigit⟩, noUnderscore⟩ := stops
      simp [runOf, noLetter, noDigit, noUnderscore]
  | number =>
      rw [Run.continues, Token.startsNumber, Bool.or_eq_false_iff] at stops
      obtain ⟨noDigit, noPoint⟩ := stops
      simp [runOf, noDigit, noPoint]

theorem spansFrom_run {more : List Char}
    (inside : ∀ character ∈ more, run.continues character = true) :
    spansFrom environment base (some run) current (more ++ rest) =
      spansFrom environment base (some run) (more.reverse ++ current) rest := by
  induction more generalizing current with
  | nil => rfl
  | cons character more induction =>
      obtain ⟨first, others⟩ := List.forall_mem_cons.mp inside
      rw [List.cons_append, spansFrom, runOf_continues first]
      simp only [Option.isSome_some, beq_self_eq_true, Bool.and_self, if_true]
      rw [induction others, List.reverse_cons, List.append_assoc]
      rfl

/-- Where a run has ended, the rest is cut as if it stood alone. -/
theorem spansFrom_finished (nonempty : current ≠ [])
    (stop : ∀ character ∈ rest.head?, run.continues character = false) :
    spansFrom environment base (some run) current rest =
      ⟨current.reverse, runStyle environment base (some run) current.reverse⟩ ::
        spansFrom environment base none [] rest := by
  have finished : runSpan environment base (some run) current.reverse =
      [⟨current.reverse, runStyle environment base (some run) current.reverse⟩] := by
    apply if_neg
    rw [List.isEmpty_iff]
    exact fun empty => nonempty (List.reverse_eq_nil_iff.mp empty)
  cases rest with
  | nil =>
      rw [spansFrom, finished]
      rfl
  | cons character rest =>
      obtain ⟨alone, another⟩ := runOf_stops (stop character rfl)
      rw [alone] at another
      rw [spansFrom, spansFrom, alone, finished]
      simp only [beq_eq_false_iff_ne.mpr another, Bool.and_false]
      cases runOf none character <;> rfl

/-- A run that starts, goes on and ends is a span. -/
theorem spansFrom_whole {tail : List Char} (starts : runOf none character = some run)
    (inside : ∀ other ∈ tail, run.continues other = true)
    (stop : ∀ other ∈ rest.head?, run.continues other = false) :
    spansFrom environment base none [] (character :: tail ++ rest) =
      ⟨character :: tail, runStyle environment base (some run) (character :: tail)⟩ ::
        spansFrom environment base none [] rest := by
  have started : spansFrom environment base none [] (character :: (tail ++ rest)) =
      spansFrom environment base (some run) [character] (tail ++ rest) := by
    rw [spansFrom, starts]
    rfl
  have whole : (tail.reverse ++ [character]).reverse = character :: tail := by
    rw [List.reverse_append, List.reverse_reverse]
    rfl
  rw [List.cons_append, started, spansFrom_run inside, spansFrom_finished (by simp) stop, whole]

/-! ## Blanks and tokens -/

/-- A character that belongs to no run is a span. -/
theorem spansFrom_single (noName : Token.startsName character = false)
    (noNumber : Token.startsNumber character = false) :
    spansFrom environment base none [] (character :: rest) =
      singleSpan base character :: spansFrom environment base none [] rest := by
  have outside : runOf none character = none := by
    refine (if_neg ?_).trans (if_neg (Bool.eq_false_iff.mp noNumber))
    exact Bool.eq_false_iff.mp ((Bool.or_false _).trans noName)
  rw [spansFrom, outside]
  rfl

theorem spansFrom_blank (blank : Text.isBlank character = true) :
    spansFrom environment base none [] (character :: rest) =
      singleSpan base character :: spansFrom environment base none [] rest := by
  apply spansFrom_single
  · by_contra name
    have solid := Token.isBlank_of_startsName (Bool.eq_true_of_not_eq_false name)
    exact absurd (blank.symm.trans solid) nofun
  · by_contra number
    have solid := (Token.readOne_of_startsNumber (Bool.eq_true_of_not_eq_false number) 0 []).1
    exact absurd (blank.symm.trans solid) nofun

/-- The style of a token that is written with the given characters. -/
def tokenStyle (environment : Environment) (base : Style) (characters : List Char) :
    TokenKind → Style
  | .number _ => .colored .lightGreen
  | .operator _ => (Style.colored .yellow).inBold
  | .identifier _ =>
    if environment.contains (String.ofList characters) then (Style.colored .lightBlue).inBold
    else base
  | .leftParenthesis | .rightParenthesis | .comma | .finish => base

/-- Where a token stands there is one span. -/
theorem spansFrom_lexeme {characters : List Char} (lexeme : Token.Lexeme rest characters kind) :
    spansFrom environment base none [] (characters ++ rest) =
      ⟨characters, tokenStyle environment base characters kind⟩ ::
        spansFrom environment base none [] rest := by
  cases lexeme with
  | leftParenthesis => exact spansFrom_single (by decide +kernel) rfl
  | rightParenthesis => exact spansFrom_single (by decide +kernel) rfl
  | comma => exact spansFrom_single (by decide +kernel) rfl
  | operator operator => cases operator <;> exact spansFrom_single (by decide +kernel) rfl
  | number inside digit _ stop _ =>
      obtain ⟨_, member, _⟩ := digit
      obtain ⟨character, tail, rfl⟩ := List.exists_cons_of_ne_nil (List.ne_nil_of_mem member)
      obtain ⟨first, others⟩ := List.forall_mem_cons.mp inside
      have starts : runOf none character = some .number := by
        refine (if_neg ?_).trans (if_pos first)
        exact Bool.eq_false_iff.mp ((Bool.or_false _).trans (startsName_of_startsNumber first))
      exact @spansFrom_whole environment base .number rest character tail starts others stop
  | @name character tail starts inside stop =>
      have belongs : runOf none character = some .name := if_pos ((Bool.or_false _).trans starts)
      exact @spansFrom_whole environment base .name rest character tail belongs inside stop

/-- The spans with the position at which each of them starts. -/
def placed (position : Nat) : List Span → List (Nat × Span)
  | [] => []
  | span :: spans => (position, span) :: placed (position + span.characters.length) spans

/-- Whether the span is a single blank. -/
def isBlankSpan (span : Span) : Bool :=
  span.characters.length == 1 && span.characters.all Text.isBlank

/-- The span starts at the position of the token, and consists of the characters that are the token
in this text; its style is the one for the kind of the token. -/
structure Shows (environment : Environment) (base : Style) (text : List Char) (token : Token)
    (span : Nat × Span) : Prop where
  position : span.1 = token.position
  source : ∃ before behind, text = before ++ (span.2.characters ++ behind) ∧
    before.length = token.position ∧ Token.Lexeme behind span.2.characters token.kind
  style : span.2.style = tokenStyle environment base span.2.characters token.kind

/-- From any place of a text that is divided, the spans that are no single blanks show the
tokens. -/
theorem shows_scans (scans : Token.Scans [] position text tokens) (before : List Char)
    (place : before.length = position) :
    List.Forall₂ (Shows environment base (before ++ text)) tokens
      ((placed position (spansFrom environment base none [] text)).filter
        fun span => !isBlankSpan span.2) := by
  induction scans generalizing before with
  | done => exact .nil
  | @blank position character text tokens blank _ induction =>
      have dropped : isBlankSpan (singleSpan base character) = true := by
        simp [isBlankSpan, singleSpan_characters, blank]
      have others := induction (before ++ [character]) (by simp [place])
      rw [List.append_assoc] at others
      rw [spansFrom_blank blank, placed, singleSpan_characters, List.filter_cons_of_neg]
      · exact others
      · simp [dropped]
  | @piece position run text kind tokens lexeme _ induction =>
      obtain ⟨character, tail, rfl, solid, _⟩ := lexeme.read
      have others := induction (before ++ character :: tail) (by simp [place])
      rw [List.append_assoc] at others
      rw [spansFrom_lexeme lexeme, placed, List.filter_cons_of_pos]
      · exact .cons ⟨rfl, ⟨before, text, rfl, place, lexeme⟩, rfl⟩ others
      · simp [isBlankSpan, solid]

/-- The spans of a text are its characters.  If the text can be read, then the spans that are no
single blanks are the tokens in front of the end, one span for each token. -/
theorem spans_tokens (environment : Environment) (base : Style) (text : String) :
    (spans environment base text.toList).flatMap Span.characters = text.toList ∧
      ∀ tokens, Token.readAll text = .ok tokens →
        ∃ front place, tokens = front ++ [⟨.finish, place⟩] ∧
          (∀ token ∈ front, token.kind ≠ .finish) ∧
          List.Forall₂ (Shows environment base text.toList) front
            ((placed 0 (spans environment base text.toList)).filter
              fun span => !isBlankSpan span.2) := by
  refine ⟨spansFrom_characters none [] text.toList, ?_⟩
  intro tokens read
  obtain ⟨front, place, same, scans, _⟩ := Token.scans_of_readAll read
  exact ⟨front, place, same, scans.kind_ne_finish, shows_scans scans [] rfl⟩

/-- A text with a name, a blank and an operator. -/
theorem spans_tokens_name :
    Token.readAll "pi -x" =
        .ok [⟨.identifier "pi", 0⟩, ⟨.operator '-', 3⟩, ⟨.identifier "x", 4⟩, ⟨.finish, 5⟩] ∧
      ∃ front place,
        [⟨.identifier "pi", 0⟩, ⟨.operator '-', 3⟩, ⟨.identifier "x", 4⟩, ⟨.finish, 5⟩] =
            front ++ [⟨.finish, place⟩] ∧
          (∀ token ∈ front, token.kind ≠ .finish) ∧
          List.Forall₂ (Shows Builtin.environment .plain "pi -x".toList) front
            ((placed 0 (spans Builtin.environment .plain "pi -x".toList)).filter
              fun span => !isBlankSpan span.2) := by
  have read : Token.readAll "pi -x" =
      .ok [⟨.identifier "pi", 0⟩, ⟨.operator '-', 3⟩, ⟨.identifier "x", 4⟩, ⟨.finish, 5⟩] := by
    decide +kernel
  exact ⟨read, (spans_tokens Builtin.environment .plain "pi -x").2 _ read⟩

end Highlight

end Reckoner
