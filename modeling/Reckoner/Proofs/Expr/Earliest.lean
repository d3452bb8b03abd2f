import Mathlib.Data.List.Nodup
import Reckoner.Proofs.Expr.Refusal
import Reckoner.Proofs.Token.Scanning

/-!
# Errors at the earliest token

A text that is refused is refused at the first token with which no expression can go on.  The tokens
in front of it are the beginning of an expression, and if it is not the end of the input, no
expression starts with these tokens and with it.

Which token that is can be seen from the error (`ParseError.Blames`): it stands at the position in
the error, unless this is the position of an opening parenthesis; then it is the end of the input.
-/

namespace Reckoner

/-- The token at which the error says that the tokens are wrong. -/
def ParseError.Blames (error : ParseError) (tokens : List Token) (culprit : Token) : Prop :=
  match error with
  | .unexpectedToken _ position | .emptyExpression position => culprit.position = position
  | .unmatchedParenthesis position =>
    culprit.kind = .rightParenthesis ∧ culprit.position = position ∨
      culprit.kind = .finish ∧
        ∃ token ∈ tokens, token.kind = .leftParenthesis ∧ token.position = position
  | .tooDeep _ => False

namespace Token

variable {tokens before behind front : List Token} {token other culprit last : Token}

theorem eq_of_position
    (increasing : tokens.Pairwise (fun token other => token.position < other.position))
    (member : token ∈ tokens) (otherMember : other ∈ tokens)
    (same : token.position = other.position) : token = other := by
  have distinct : (tokens.map Token.position).Nodup :=
    List.pairwise_map.mpr (increasing.imp Nat.ne_of_lt)
  exact List.inj_on_of_nodup_map distinct member otherMember same

/-- A token of a closed list is its last one, or stands in front of that. -/
theorem split_closed (whole : front ++ [last] = before ++ culprit :: behind) :
    before = front ∧ culprit = last ∨ ∃ others, front = before ++ culprit :: others := by
  rcases List.eq_nil_or_concat behind with rfl | ⟨others, ending, rfl⟩
  · obtain ⟨same, ending⟩ := List.append_inj' whole rfl
    exact .inl ⟨same.symm, (List.cons.inj ending).1.symm⟩
  · rw [List.concat_eq_append, ← List.cons_append, ← List.append_assoc] at whole
    exact .inr ⟨others, (List.append_inj' whole rfl).1⟩

/-- A parenthesis that the tokens leave open is one of them. -/
theorem mem_of_regroup {position : Nat} {groups : List Nat}
    (member : position ∈ tokens.foldl regroup groups) :
    position ∈ groups ∨
      ∃ token ∈ tokens, token.kind = .leftParenthesis ∧ token.position = position := by
  induction tokens generalizing groups with
  | nil => exact .inl member
  | cons token tokens induction =>
      rcases induction member with earlier | ⟨other, otherMember, opening⟩
      · unfold regroup at earlier
        split at earlier
        · next kind =>
            rcases List.mem_cons.mp earlier with rfl | member
            · exact .inr ⟨token, List.mem_cons_self, kind, rfl⟩
            · exact .inl member
        · exact .inl (List.mem_of_mem_tail earlier)
        · exact .inl earlier
      · exact .inr ⟨other, List.mem_cons_of_mem token otherMember, opening⟩

end Token

namespace Expr

variable {limits : Limits} {front : List Token} {place : Nat} {error : ParseError}

/-- Where no limit is the reason, tokens are refused at the first one that the outlook refuses. -/
theorem refused_of_ofTokens (inside : ∀ token ∈ front, token.kind ≠ .finish)
    (failure : ofTokens limits (front ++ [⟨.finish, place⟩]) = .error error)
    (other : ∀ limit, error ≠ .tooDeep limit) :
    ∃ before culprit behind reached, front ++ [⟨.finish, place⟩] = before ++ culprit :: behind ∧
      Outlook.initial.follow (before.map Token.kind) = some reached ∧
      reached.Refuses culprit.kind ∧
      (error = Reader.refusal (before.foldl Token.regroup []) culprit ∨
        front = [] ∧ error = .emptyExpression place) := by
  have rest : (Reader.State.ofTokens (front ++ [⟨.finish, place⟩])).rest = front :=
    Token.takeWhile_first_finish inside rfl
  have finish : (Reader.Context.ofTokens limits (front ++ [⟨.finish, place⟩])).finish = place :=
    Token.finishPosition_first_finish inside rfl
  obtain ⟨final, run⟩ := ofTokens_eq_error_iff_reading.mp failure
  have halts := (Reader.ends_iff_of_eq_error run).mp (Reader.whole_walks rfl)
  rcases halts with (limited | ⟨state, reached, goes, refuses, same⟩) | ⟨kind, same⟩
  · obtain ⟨limit, same⟩ := limited
    exact absurd same (other limit)
  · obtain ⟨used, whole, follow, groups⟩ := goes
    rw [rest] at whole
    rw [groups] at same
    rw [Reader.State.next, finish] at refuses same
    cases left : state.rest with
    | nil =>
        rw [left] at whole refuses same
        rw [List.append_nil] at whole
        exact ⟨used, ⟨.finish, place⟩, [], reached, by rw [whole], follow, refuses, .inl same⟩
    | cons culprit others =>
        rw [left] at whole refuses same
        refine ⟨used, culprit, others ++ [⟨.finish, place⟩], reached, ?_, follow, refuses,
          .inl same⟩
        rw [whole, List.append_assoc, List.cons_append]
  · rw [Reader.State.next, rest, finish] at kind same
    cases front with
    | nil =>
        refine ⟨[], ⟨.finish, place⟩, [], .initial, rfl, rfl, ⟨rfl, ?_⟩, .inr ⟨rfl, same⟩⟩
        rintro _ ⟨named, complete⟩
        cases complete
    | cons first others => exact absurd kind (inside first List.mem_cons_self)

/-- Tokens that the outlook follows to the end of an expression are an expression. -/
theorem exists_derives {kinds : List TokenKind} {ending : Outlook}
    (inside : ∀ kind ∈ kinds, kind ≠ .finish)
    (follow : Outlook.initial.follow kinds = some ending) (complete : ending.Complete) :
    ∃ tree, Grammar.Derives kinds tree := by
  let front := kinds.map (Token.mk · 0)
  have same : front.map Token.kind = kinds := by simp [front, Function.comp_def]
  have insideFront : ∀ token ∈ front, token.kind ≠ .finish := by simpa [front] using inside
  have significant := Token.significant_closed 0 insideFront
  let wide : Limits := ⟨front.length + 1, front.length + 1⟩
  cases result : ofTokens wide (front ++ [⟨.finish, 0⟩]) with
  | ok tree =>
      obtain ⟨levels, sum, _⟩ := sum_of_ofTokens result
      rw [significant, same] at sum
      exact ⟨tree, levels, sum⟩
  | error error =>
      have enough : (Token.significant (front ++ [⟨.finish, 0⟩])).length < front.length + 1 := by
        rw [significant, List.length_map]
        exact Nat.lt_succ_self _
      have unlimited : ∀ limit, error ≠ .tooDeep limit := by
        rintro limit rfl
        exact ofTokens_ne_tooDeep enough enough limit result
      obtain ⟨before, culprit, behind, reached, whole, run, refuses, _⟩ :=
        refused_of_ofTokens insideFront result unlimited
      rw [← same] at follow
      rcases Token.split_closed whole with ⟨rfl, rfl⟩ | ⟨others, split⟩
      · rw [run] at follow
        cases follow
        exact absurd complete (refuses.2 rfl)
      · rw [split, List.map_append, List.map_cons, Outlook.follow_append run,
          Outlook.follow_cons_none refuses.1] at follow
        cases follow

/-- What the outlook follows is the beginning of an expression. -/
theorem exists_derives_append {kinds : List TokenKind} {reached : Outlook}
    (inside : ∀ kind ∈ kinds, kind ≠ .finish)
    (follow : Outlook.initial.follow kinds = some reached) :
    ∃ later tree, Grammar.Derives (kinds ++ later) tree := by
  obtain ⟨later, ending, run, complete, insideLater⟩ := reached.exists_completion
  refine ⟨later, exists_derives (List.forall_mem_append.mpr ⟨inside, insideLater⟩) ?_ complete⟩
  rw [Outlook.follow_append follow, run]

/-- No expression starts with what the outlook does not follow. -/
theorem not_derives_of_refuses {kinds later : List TokenKind} {kind : TokenKind} {reached : Outlook}
    {tree : Expr} (follow : Outlook.initial.follow kinds = some reached)
    (refuses : reached.Refuses kind) : ¬ Grammar.Derives (kinds ++ kind :: later) tree := by
  rintro ⟨levels, sum⟩
  obtain ⟨named, run⟩ := sum.follow []
  have refused : Outlook.initial.follow (kinds ++ kind :: later) = none := by
    rw [Outlook.follow_append follow, Outlook.follow_cons_none refuses.1]
  exact absurd (refused.symm.trans run) (by simp)

/-- The error for a token that is refused blames this token. -/
theorem refusal_blames {before behind : List Token} {culprit : Token} :
    (Reader.refusal (before.foldl Token.regroup []) culprit).Blames (before ++ culprit :: behind)
      culprit := by
  unfold Reader.refusal
  split
  · next kind _ => exact .inl ⟨kind, rfl⟩
  · exact rfl
  · next position others kind groups =>
      have member : position ∈ before.foldl Token.regroup [] := by simp [groups]
      rcases Token.mem_of_regroup member with none | ⟨token, tokenMember, opening⟩
      · cases none
      · exact .inr ⟨kind, token, List.mem_append_left _ tokenMember, opening⟩
  · exact rfl

end Expr

/-- In a text no two tokens are blamed. -/
theorem ParseError.Blames.unique {error : ParseError} {tokens : List Token} {culprit other : Token}
    (increasing : tokens.Pairwise (fun token other => token.position < other.position))
    (closed : ∀ token ∈ tokens, ∀ other ∈ tokens, token.kind = .finish → other.kind = .finish →
      token = other)
    (member : culprit ∈ tokens) (otherMember : other ∈ tokens)
    (blames : error.Blames tokens culprit) (otherBlames : error.Blames tokens other) :
    culprit = other := by
  have located := @Token.eq_of_position tokens
  cases error with
  | unexpectedToken found position =>
      exact located increasing member otherMember (blames.trans otherBlames.symm)
  | emptyExpression position =>
      exact located increasing member otherMember (blames.trans otherBlames.symm)
  | unmatchedParenthesis position =>
      rcases blames with ⟨kind, place⟩ | ⟨kind, opening, openingMember, openingKind, place⟩
      · rcases otherBlames with ⟨_, otherPlace⟩ | ⟨_, ending⟩
        · exact located increasing member otherMember (place.trans otherPlace.symm)
        · obtain ⟨opening, openingMember, openingKind, otherPlace⟩ := ending
          have same := located increasing member openingMember (place.trans otherPlace.symm)
          rw [same, openingKind] at kind
          cases kind
      · rcases otherBlames with ⟨otherKind, otherPlace⟩ | ⟨otherKind, _⟩
        · have same := located increasing otherMember openingMember (otherPlace.trans place.symm)
          rw [same, openingKind] at otherKind
          cases otherKind
        · exact closed culprit member other otherMember kind otherKind
  | tooDeep limit => exact blames.elim

namespace Expr

/-- Where a text is refused and no limit is the reason, the error blames exactly one token.  What
stands in front of that token is the beginning of an expression, and unless the token is the end,
no expression begins with all this and the token. -/
theorem ofTokens_earliest {limits : Limits} {text : String} {tokens : List Token}
    {error : ParseError} (read : Token.readAll text = .ok tokens)
    (failure : ofTokens limits tokens = .error error) (other : ∀ limit, error ≠ .tooDeep limit) :
    ∃ before culprit behind, tokens = before ++ culprit :: behind ∧
      error.Blames tokens culprit ∧
      (∀ token ∈ tokens, error.Blames tokens token → token = culprit) ∧
      (∃ later tree, Grammar.Derives (before.map Token.kind ++ later) tree) ∧
      (culprit.kind ≠ .finish →
        ∀ later tree, ¬ Grammar.Derives (before.map Token.kind ++ culprit.kind :: later) tree) := by
  obtain ⟨front, place, rfl, scans, _⟩ := Token.scans_of_readAll read
  have inside := scans.kind_ne_finish
  obtain ⟨before, culprit, behind, reached, whole, follow, refuses, cause⟩ :=
    refused_of_ofTokens inside failure other
  have split := Token.split_closed whole
  have insideBefore : ∀ kind ∈ before.map Token.kind, kind ≠ .finish := by
    rw [List.forall_mem_map]
    rcases split with ⟨rfl, _⟩ | ⟨others, rfl⟩
    · exact inside
    · exact (List.forall_mem_append.mp inside).1
  have blames : error.Blames (front ++ [⟨.finish, place⟩]) culprit := by
    rcases cause with rfl | ⟨rfl, rfl⟩
    · rw [whole]
      exact refusal_blames
    · rcases split with ⟨_, rfl⟩ | ⟨others, same⟩
      · exact rfl
      · exact absurd same (by simp)
  have closed : ∀ token ∈ front ++ [⟨.finish, place⟩], token.kind = .finish →
      token = ⟨.finish, place⟩ := by
    intro token member kind
    rcases List.mem_append.mp member with inFront | last
    · exact absurd kind (inside token inFront)
    · exact List.mem_singleton.mp last
  refine ⟨before, culprit, behind, whole, blames, ?_, exists_derives_append insideBefore follow,
    fun _ later tree => not_derives_of_refuses follow refuses⟩
  intro token member tokenBlames
  refine tokenBlames.unique (Token.readAll_increasing read) ?_ member (by simp [whole]) blames
  intro first firstMember second secondMember firstKind secondKind
  rw [closed first firstMember firstKind, closed second secondMember secondKind]

/-- In `(x+)` the closing parenthesis is blamed, behind a beginning that is fine. -/
theorem ofTokens_earliest_dangling_sign :
    let tokens : List Token := [⟨.leftParenthesis, 0⟩, ⟨.identifier "x", 1⟩, ⟨.operator '+', 2⟩,
      ⟨.rightParenthesis, 3⟩, ⟨.finish, 4⟩]
    Token.readAll "(x+)" = .ok tokens ∧
      ofTokens .standard tokens = .error (.emptyExpression 3) ∧
      ∃ before culprit behind, tokens = before ++ culprit :: behind ∧
        culprit = ⟨.rightParenthesis, 3⟩ ∧
        (∃ later tree, Grammar.Derives (before.map Token.kind ++ later) tree) ∧
        ∀ later tree, ¬ Grammar.Derives (before.map Token.kind ++ culprit.kind :: later) tree := by
  intro tokens
  have read : Token.readAll "(x+)" = .ok tokens := by decide +kernel
  have failure : ofTokens .standard tokens = .error (.emptyExpression 3) := rfl
  obtain ⟨before, culprit, behind, whole, _, only, begins, dead⟩ :=
    ofTokens_earliest read failure (by simp)
  have same : culprit = ⟨.rightParenthesis, 3⟩ :=
    (only ⟨.rightParenthesis, 3⟩ (by simp [tokens]) rfl).symm
  exact ⟨read, failure, before, culprit, behind, whole, same, begins,
    dead (by simp [same])⟩

end Expr

end Reckoner
