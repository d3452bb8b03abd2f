import Reckoner.Calculator
import Reckoner.Proofs.Expr.Earliest
import Reckoner.Proofs.Text.Brackets

/-!
# The positions in errors

Every error of a calculator that reads a text points at the right place of this text.  For the
parentheses this is the usual matching of the characters: as long as the outlook is followed, no
parenthesis is closed that is not open, and the parentheses that the reader has open are those that
the characters leave open.

The end of the input is reported behind the last character.  The token that stands for it need not
be there, but it is where an operand is missing, as the token in front of it is a single character
then.
-/

namespace Reckoner

namespace Token

open Text

variable {rest text run before : List Char} {position : Nat} {kind : TokenKind}
  {tokens : List Token} {groups : List Nat} {outlook reached : Outlook}

theorem Lexeme.leaves (lexeme : Lexeme rest run kind) (leaves : Leaves before groups)
    (counted : outlook.calls.length = groups.length)
    (taken : outlook.after kind = some reached) :
    Leaves (before ++ run) (regroup groups ⟨kind, before.length⟩) ∧
      reached.calls.length = (regroup groups ⟨kind, before.length⟩).length := by
  have length := Outlook.nests_of_after taken
  cases kind with
  | leftParenthesis =>
      cases lexeme
      exact ⟨leaves.open, length.trans (congrArg Nat.succ counted)⟩
  | rightParenthesis =>
      cases lexeme
      cases groups with
      | nil => exact absurd (length.symm.trans counted) (Nat.succ_ne_zero _)
      | cons group groups => exact ⟨leaves.close, Nat.succ.inj (length.symm.trans counted)⟩
  | number | identifier | operator | comma | finish =>
      exact ⟨leaves.append (balanced_of_plain (lexeme.plain (by simp) (by simp))),
        length.trans counted⟩

/-- The parentheses that the characters leave open are those that the tokens leave open, and as
many are open in the outlook. -/
theorem Scans.leaves (scans : Scans rest position text tokens) (place : before.length = position)
    (leaves : Leaves before groups) (counted : outlook.calls.length = groups.length)
    (follow : outlook.follow (tokens.map Token.kind) = some reached) :
    ∃ inside, text = inside ++ rest ∧ Leaves (before ++ inside) (tokens.foldl regroup groups) ∧
      reached.calls.length = (tokens.foldl regroup groups).length := by
  induction scans generalizing before groups outlook with
  | done =>
      cases follow
      exact ⟨[], rfl, by rwa [List.append_nil], counted⟩
  | @blank position character text tokens blank _ induction =>
      have plain : ∀ other ∈ [character], other ≠ '(' ∧ other ≠ ')' := by
        rw [List.forall_mem_singleton]
        constructor
        · rintro rfl
          exact absurd blank (by decide)
        · rintro rfl
          exact absurd blank (by decide)
      obtain ⟨inside, rfl, behind, length⟩ :=
        induction (by simp [place]) (leaves.append (balanced_of_plain plain)) counted follow
      refine ⟨character :: inside, rfl, ?_, length⟩
      rwa [List.append_assoc] at behind
  | @piece position run text kind tokens lexeme _ induction =>
      obtain ⟨middle, taken, others⟩ := Outlook.exists_of_follow_cons follow
      obtain ⟨opened, length⟩ := lexeme.leaves leaves counted taken
      rw [place] at opened length
      obtain ⟨inside, rfl, behind, final⟩ := induction (by simp [place]) opened length others
      refine ⟨run ++ inside, (List.append_assoc run inside rest).symm, ?_, final⟩
      rwa [List.append_assoc] at behind

/-- Where an operand is wanted the last token is a mark. -/
theorem isMark_of_after (taken : outlook.after kind = some reached)
    (wanted : ∀ named, reached.phase ≠ .operator named) : kind.isMark = true := by
  obtain ⟨phase, calls⟩ := outlook
  cases kind with
  | operator | leftParenthesis | rightParenthesis | comma => rfl
  | number value =>
      cases phase <;> cases taken <;> exact absurd rfl (wanted _)
  | identifier name =>
      cases phase <;> cases taken <;> exact absurd rfl (wanted _)
  | finish => cases phase <;> cases taken

end Token

/-- Where in the text the error points. -/
def CalcError.PointsInto (text : String) : CalcError → Prop
  | .lex (.invalidCharacter character position) => text.toList[position]? = some character
  | .lex (.malformedNumber literal position) => literal.toList <+: text.toList.drop position
  | .parse (.unexpectedToken found position) =>
    found = .finish ∧ position = text.toList.length ∨
      position < text.toList.length ∧ found ≠ .finish ∧
        ∃ tokens, Token.readAll text = .ok tokens ∧ ⟨found, position⟩ ∈ tokens
  | .parse (.emptyExpression position) =>
    position = text.toList.length ∧ (∀ character ∈ text.toList, Text.isBlank character = true) ∨
      text.toList[position]? = some ')'
  | .parse (.unmatchedParenthesis position) =>
    text.toList[position]? = some ')' ∧
        (∀ opening, ¬ Text.Partners text.toList opening position) ∨
      text.toList[position]? = some '(' ∧
        (∀ closing, ¬ Text.Partners text.toList position closing) ∧
        ∀ later, position < later → text.toList[later]? = some '(' →
          ∃ closing, Text.Partners text.toList later closing
  | .parse (.tooDeep _) => True
  | .eval _ => False

namespace Calculator

variable {calculator : Calculator} {text : String} {error : CalcError}

theorem lex_pointsInto {error : LexError} (read : Token.readAll text = .error error) :
    (CalcError.lex error).PointsInto text := by
  obtain ⟨before, bad, front, whole, _, obstructs⟩ := Token.obstructs_of_readAll read
  cases obstructs with
  | character => simp [CalcError.PointsInto, whole]
  | point => simp [CalcError.PointsInto, whole]
  | secondPoint => simp [CalcError.PointsInto, whole]

/-- Where an operand is missing at the end, the last token is a mark. -/
theorem isMark_last {front : List Token} {reached : Outlook}
    (follow : Outlook.initial.follow (front.map Token.kind) = some reached)
    (closed : reached.calls = []) (unfinished : ¬ reached.Complete) :
    ∀ token ∈ front.getLast?, token.kind.isMark = true := by
  intro token last
  obtain ⟨others, rfl⟩ := List.getLast?_eq_some_iff.mp last
  rw [List.map_append] at follow
  obtain ⟨middle, _, run⟩ := Outlook.exists_of_follow_append follow
  obtain ⟨final, taken, same⟩ := Outlook.exists_of_follow_cons run
  cases same
  refine Token.isMark_of_after taken fun named phase => unfinished ⟨named, ?_⟩
  obtain ⟨_, calls⟩ := reached
  cases phase
  cases closed
  rfl

/-- At the end of the input an operand is missing, or a parenthesis is open. -/
theorem end_pointsInto {front : List Token} {place : Nat} {reached : Outlook}
    (scans : Token.Scans [] 0 text.toList front)
    (last : (∀ token ∈ front.getLast?, token.kind.isMark = true) → place = text.toList.length)
    (follow : Outlook.initial.follow (front.map Token.kind) = some reached)
    (unfinished : ¬ reached.Complete) :
    (CalcError.parse (Reader.refusal (front.foldl Token.regroup []) ⟨.finish, place⟩)).PointsInto
      text := by
  obtain ⟨inside, whole, leaves, length⟩ := scans.leaves rfl (.balanced .nil) rfl follow
  rw [List.append_nil] at whole
  rw [List.nil_append, ← whole] at leaves
  cases groups : front.foldl Token.regroup [] with
  | nil =>
      rw [groups] at length
      have closed := List.eq_nil_of_length_eq_zero length
      exact .inl ⟨rfl, last (isMark_last follow closed unfinished)⟩
  | cons position others =>
      rw [groups] at leaves
      exact .inr leaves.last_open

/-- Before the end a token is refused that stands at the position in the error. -/
theorem inside_pointsInto {before others : List Token} {culprit : Token} {reached : Outlook}
    {tokens : List Token} (read : Token.readAll text = .ok tokens)
    (member : culprit ∈ tokens)
    (scans : Token.Scans [] 0 text.toList (before ++ culprit :: others))
    (follow : Outlook.initial.follow (before.map Token.kind) = some reached) :
    (CalcError.parse (Reader.refusal (before.foldl Token.regroup []) culprit)).PointsInto
      text := by
  have inside := scans.kind_ne_finish culprit (by simp)
  obtain ⟨front, run, behind, whole, place, lexeme, scansFront, _⟩ := scans.split
  rw [Nat.zero_add] at place
  obtain ⟨within, split, leaves, _⟩ := scansFront.leaves rfl (.balanced .nil) rfl follow
  rw [whole] at split
  rw [List.nil_append, ← List.append_cancel_right split] at leaves
  obtain ⟨kind, position⟩ := culprit
  cases place
  have found : run = [')'] → text.toList[front.length]? = some ')' := by
    rintro rfl
    simp [whole]
  unfold Reader.refusal
  split
  · next closing groups =>
      cases closing
      cases lexeme
      rw [groups] at leaves
      refine .inl ⟨found rfl, fun opening => ?_⟩
      rw [whole]
      exact leaves.not_partners behind opening
  · next closing groups =>
      cases closing
      cases lexeme
      exact .inr (found rfl)
  · next ending _ => exact absurd ending inside
  · refine .inr ⟨?_, inside, tokens, read, member⟩
    have nonempty := List.length_pos_of_ne_nil lexeme.ne_nil
    simp only [whole, List.length_append]
    omega

theorem parse_pointsInto {limits : Limits} {tokens : List Token} {error : ParseError}
    (read : Token.readAll text = .ok tokens)
    (failure : Expr.ofTokens limits tokens = .error error) :
    (CalcError.parse error).PointsInto text := by
  by_cases deep : ∃ limit, error = .tooDeep limit
  · obtain ⟨limit, rfl⟩ := deep
    trivial
  · obtain ⟨front, place, rfl, scans, last⟩ := Token.scans_of_readAll read
    obtain ⟨before, culprit, behind, reached, whole, follow, refuses, rfl | ⟨rfl, rfl⟩⟩ :=
      Expr.refused_of_ofTokens scans.kind_ne_finish failure fun limit same => deep ⟨limit, same⟩
    · rcases Token.split_closed whole with ⟨rfl, rfl⟩ | ⟨others, rfl⟩
      · exact end_pointsInto scans last follow (refuses.2 rfl)
      · exact inside_pointsInto read (by simp) scans follow
    · obtain ⟨blanks, whole, blank⟩ := scans.blanks
      rw [List.append_nil] at whole
      exact .inl ⟨last (by simp), whole ▸ blank⟩

/-- Every error that reading a text ends with points at the place in the text that it is about. -/
theorem read_error_pointsInto (failure : calculator.read text = .error error) :
    error.PointsInto text := by
  unfold read at failure
  cases readTokens : Token.readAll text with
  | error error =>
      rw [readTokens] at failure
      cases failure
      exact lex_pointsInto readTokens
  | ok tokens =>
      rw [readTokens] at failure
      cases built : Expr.ofTokens calculator.limits tokens with
      | error error =>
          simp only [built] at failure
          cases failure
          exact parse_pointsInto readTokens built
      | ok tree =>
          simp only [built] at failure
          cases failure

/-- In `((x)` the first parenthesis is the last one without a partner. -/
theorem read_error_pointsInto_unclosed :
    standard.read "((x)" = .error (.parse (.unmatchedParenthesis 0)) ∧
      (CalcError.parse (.unmatchedParenthesis 0)).PointsInto "((x)" := by
  have tokens : Token.readAll "((x)" = .ok [⟨.leftParenthesis, 0⟩, ⟨.leftParenthesis, 1⟩,
      ⟨.identifier "x", 2⟩, ⟨.rightParenthesis, 3⟩, ⟨.finish, 4⟩] := by
    decide +kernel
  have failure : standard.read "((x)" = .error (.parse (.unmatchedParenthesis 0)) := by
    rw [read, tokens]
    rfl
  exact ⟨failure, read_error_pointsInto failure⟩

end Calculator

end Reckoner
