import Reckoner.Proofs.Expr.IndexReader

/-!
# What an index has passed

The reader with an index keeps its books in order, from every state whose index is not behind the
first end token.  `IndexReader.Balanced` says how: it never stops with a fault, a form that has been
read has moved the index and has left everything else as it was, and a form that has been refused
has left open just the groups whose opening parenthesis it has passed without the closing one.

For a whole list this means that the reading depends neither on the work nor on the tokens behind
the first end token, and that it is the one that goes on without an index.
-/

namespace Reckoner

namespace Token

theorem exists_first_finish {tokens : List Token}
    (ended : ∃ token ∈ tokens, token.kind = .finish) :
    ∃ front ending behind, tokens = front ++ ending :: behind ∧
      (∀ token ∈ front, token.kind ≠ .finish) ∧ ending.kind = .finish := by
  obtain ⟨token, member, finish⟩ := ended
  cases found : tokens.find? isFinish with
  | none => exact absurd (isFinish_iff.mpr finish) (List.find?_eq_none.mp found token member)
  | some ending =>
      obtain ⟨isFinish, front, behind, split, inside⟩ := List.find?_eq_some_iff_append.mp found
      refine ⟨front, ending, behind, split, ?_, isFinish_iff.mp isFinish⟩
      intro token member finish
      simpa [isFinish_iff.mpr finish] using inside token member

end Token

namespace IndexReader

/-- The tokens in front of the first end token. -/
def Source.front (source : Source) : List Token :=
  source.tokens.takeWhile (!·.isFinish)

variable {α : Type} {front : List Token} {start final : State}
  {other partnerFinal : Reader.State}

theorem Source.shows (source : Source) (ended : ∃ token ∈ source.tokens, token.kind = .finish) :
    source.Shows (.ofTokens source.limits source.tokens) source.front := by
  obtain ⟨front, ending, behind, split, inside, finish⟩ := Token.exists_first_finish ended
  have frontEq : source.front = front := by
    rw [Source.front, split, Token.takeWhile_first_finish inside finish]
  have placeEq : Token.finishPosition source.tokens = ending.position := by
    rw [split, Token.finishPosition_first_finish inside finish]
  refine ⟨rfl, ⟨behind, ?_⟩, frontEq ▸ inside⟩
  rw [Reader.Context.ofTokens, frontEq, placeEq, split, ← finish]

/-! ## The balance of the forms -/

/-- The tokens over which the index has moved. -/
def State.passed (front : List Token) (start final : State) : List Token :=
  (front.drop start.current).take (final.current - start.current)

/-- The index has moved over some tokens whose parentheses have partners, and all else is as
before. -/
structure State.Completes (front : List Token) (start final : State) : Prop where
  current_lt : start.current < final.current
  inside : final.current ≤ front.length
  groups : final.groups = start.groups
  nesting : final.nesting = start.nesting
  paired : Token.Paired (start.passed front final)

/-- The index may have moved.  The groups that are left open are those of the opening parentheses
without a partner in front of the refused token, which may have been passed too if the error is
about it. -/
structure State.Abandons (front : List Token) (start : State) (error : ParseError)
    (final : State) : Prop where
  current_le : start.current ≤ final.current
  inside : final.current ≤ front.length
  nesting : final.nesting = start.nesting
  opened : ∃ used refused opened, start.passed front final = used ++ refused ∧
    refused.length ≤ 1 ∧
    (∀ token ∈ refused, token.kind ≠ .leftParenthesis ∧
      error = Reader.refusal final.groups token) ∧
    Token.LeavesOpen used opened ∧ final.groups = opened ++ start.groups

/-- The run has stopped without a fault, and the books are in order. -/
def Balanced (front : List Token) (start : State) : EStateM.Result Stop State α → Prop
  | .ok _ final => start.Completes front final
  | .error (.refused error) final => start.Abandons front error final
  | .error (.broken _) _ => False

section Passed

variable (views : start.Views front other) (finalViews : final.Views front partnerFinal)
include views finalViews

theorem current_eq_add {used : List Token} (rest : other.rest = used ++ partnerFinal.rest) :
    final.current = start.current + used.length := by
  have lengths := congrArg List.length rest
  rw [views.rest, finalViews.rest, List.length_append, List.length_drop, List.length_drop]
    at lengths
  have startInside := views.inside
  have finalInside := finalViews.inside
  omega

theorem passed_eq {used : List Token} (rest : other.rest = used ++ partnerFinal.rest) :
    start.passed front final = used := by
  rw [State.passed, current_eq_add views finalViews rest, Nat.add_sub_cancel_left, ← views.rest,
    rest, List.take_left]

theorem State.Views.completes (completes : other.Completes partnerFinal) :
    start.Completes front final := by
  obtain ⟨used, nonempty, passed⟩ := completes
  have moved := current_eq_add views finalViews passed.rest
  have taken := List.length_pos_iff.mpr nonempty
  refine ⟨by omega, finalViews.inside, ?_, ?_, ?_⟩
  · rw [← finalViews.groups, passed.groups, List.nil_append, views.groups]
  · rw [← finalViews.nesting, passed.nesting, views.nesting]
  · rw [passed_eq views finalViews passed.rest]
    exact passed.leaves.paired_of_nil

theorem State.Views.abandons {error : ParseError} (abandons : other.Abandons error partnerFinal) :
    start.Abandons front error final := by
  obtain ⟨used, refused, opened, given⟩ := abandons
  have rest := given.rest
  rw [← List.append_assoc] at rest
  have moved := current_eq_add views finalViews rest
  refine ⟨by omega, finalViews.inside, ?_, used, refused, opened, ?_, given.single,
    finalViews.groups ▸ given.refusal, given.leaves, ?_⟩
  · rw [← finalViews.nesting, given.nesting, views.nesting]
  · exact passed_eq views finalViews rest
  · rw [← finalViews.groups, given.groups, views.groups]

omit finalViews in
theorem Matches.balanced {reader : IndexReader α} {partner : Reader α}
    (matched : Matches front (reader start) (partner other)) (balances : partner.Balances) :
    Balanced front start (reader start) := by
  cases run : reader start with
  | ok value final =>
      cases partnerRun : partner other with
      | ok partnerValue partnerFinal =>
          rw [run, partnerRun] at matched
          cases matched with
          | ok finalViews => exact views.completes finalViews (balances.completes partnerRun)
      | error error partnerFinal =>
          rw [run, partnerRun] at matched
          cases matched
  | error stop final =>
      cases partnerRun : partner other with
      | ok partnerValue partnerFinal =>
          rw [run, partnerRun] at matched
          cases matched
      | error error partnerFinal =>
          rw [run, partnerRun] at matched
          cases matched with
          | error finalViews => exact views.abandons finalViews (balances.abandons partnerRun)

end Passed

/-- The reader of the form that belongs to a level. -/
def form (source : Source) (work : Nat) : Level → IndexReader Measured
  | .sum => sum source work (signed source work)
  | .product => product source work (signed source work)
  | .negation => signed source work
  | .power => power source work (signed source work)
  | .atom => primary source work (signed source work)

end IndexReader

/-- The reader of the form that belongs to a level, without an index. -/
def Reader.form (context : Reader.Context) : Level → Reader Measured
  | .sum => sum context (signed context context.limits.depth)
  | .product => product context (signed context context.limits.depth)
  | .negation => signed context context.limits.depth
  | .power => power context (signed context context.limits.depth)
  | .atom => primary context (signed context context.limits.depth)

theorem Reader.form_balances (context : Reader.Context) (level : Level) :
    Balances (form context level) := by
  have signed := signed_balances context context.limits.depth
  cases level with
  | sum => exact sum_balances signed
  | product => exact product_balances signed
  | negation => exact signed
  | power => exact power_balances signed
  | atom => exact primary_balances signed

namespace IndexReader

variable {source : Source} {context : Reader.Context} {front tokens : List Token}
  {limits : Limits} {work : Nat}

theorem form_follows (shows : source.Shows context front) (work : Nat) (level : Level) :
    Follows context front work context.limits.depth (form source work level)
      (Reader.form context level) := by
  have follows := signed_follows shows work context.limits.depth
  have balances := Reader.signed_balances context context.limits.depth
  cases level with
  | sum => exact sum_follows shows follows balances
  | product => exact product_follows shows follows balances
  | negation => exact follows
  | power =>
      exact fun state other ready =>
        power_follows shows follows balances state other (ready.mono (Nat.le_succ work))
  | atom =>
      exact fun state other ready =>
        primary_follows shows follows balances state other (ready.mono (Nat.le_succ work))

/-! ## Whole lists -/

/-- Reads a whole list from its first token on. -/
def read (source : Source) (work : Nat) : Except Stop Expr :=
  match whole source work ⟨0, [], 0⟩ with
  | .ok expression _ => .ok expression
  | .error stop _ => .error stop

theorem read_eq
    (shows : source.Shows (.ofTokens limits tokens) (Reader.State.ofTokens tokens).rest)
    (enough : (Reader.State.ofTokens tokens).rest.length < work) :
    read source work = (Expr.ofTokens limits tokens).mapError .refused := by
  have views : State.Views (Reader.State.ofTokens tokens).rest ⟨0, [], 0⟩ (.ofTokens tokens) :=
    ⟨Nat.zero_le _, rfl, rfl, rfl⟩
  have matched := whole_matches shows views enough
  unfold read Expr.ofTokens Expr.reading EStateM.run
  revert matched
  generalize whole source work ⟨0, [], 0⟩ = result
  generalize Reader.whole (.ofTokens limits tokens) (.ofTokens tokens) = partnerResult
  intro matched
  cases matched with
  | ok => rfl
  | error => rfl

/-- Where a list has an end token, every form keeps the books in order from every state in front of
the first one, and does there what the reader without an index does; and a whole reading never
stops with a fault. -/
theorem form_balanced (source : Source)
    (ended : ∃ token ∈ source.tokens, token.kind = .finish) :
    (∀ (level : Level) (start : State) (work : Nat), start.current ≤ source.front.length →
      source.front.length - start.current < work →
      Balanced source.front start (form source work level start) ∧
        ∀ deepest, Matches source.front (form source work level start)
          (Reader.form (.ofTokens source.limits source.tokens) level
            ⟨source.front.drop start.current, start.groups, start.nesting, deepest⟩)) ∧
      ∀ work, source.front.length < work →
        read source work = (Expr.ofTokens source.limits source.tokens).mapError .refused := by
  have shows := source.shows ended
  refine ⟨?_, fun work enough => read_eq shows enough⟩
  intro level start work inside enough
  have views : ∀ deepest, start.Views source.front
      ⟨source.front.drop start.current, start.groups, start.nesting, deepest⟩ :=
    fun _ => ⟨inside, rfl, rfl, rfl⟩
  have matched : ∀ deepest, Matches source.front (form source work level start)
      (Reader.form (.ofTokens source.limits source.tokens) level
        ⟨source.front.drop start.current, start.groups, start.nesting, deepest⟩) := by
    intro deepest
    refine form_follows shows work level start _ ⟨views deepest, ?_, Nat.le_add_left _ _⟩
    rw [List.length_drop]
    exact enough
  exact ⟨(matched 0).balanced (views 0) (Reader.form_balances _ level), matched⟩

/-- In `f(1,(2` the reader of the inner group stops at the end, and both groups stay open. -/
theorem form_balanced_of_unclosed :
    let source : Source := {
      tokens := [⟨.identifier "f", 0⟩, ⟨.leftParenthesis, 1⟩, ⟨.number 1, 2⟩, ⟨.comma, 3⟩,
        ⟨.leftParenthesis, 4⟩, ⟨.number 2, 5⟩, ⟨.finish, 6⟩, ⟨.rightParenthesis, 7⟩]
      limits := .standard }
    let start : State := ⟨4, [1], 1⟩
    let result : EStateM.Result Stop State Measured :=
      .error (.refused (.unmatchedParenthesis 4)) ⟨6, [4, 1], 1⟩
    (∃ token ∈ source.tokens, token.kind = .finish) ∧ start.current ≤ source.front.length ∧
      source.front.length - start.current < 3 ∧ form source 3 .atom start = result ∧
      Balanced source.front start result ∧
      read source 7 = .error (.refused (.unmatchedParenthesis 4)) := by
  intro source start result
  have ended : ∃ token ∈ source.tokens, token.kind = .finish :=
    ⟨⟨.finish, 6⟩, by simp [source], rfl⟩
  have inside : start.current ≤ source.front.length := by decide
  have enough : source.front.length - start.current < 3 := by decide
  have run : form source 3 .atom start = result := rfl
  obtain ⟨forms, whole⟩ := form_balanced source ended
  have balanced := (forms .atom start 3 inside enough).1
  rw [run] at balanced
  exact ⟨ended, inside, enough, run, balanced, (whole 7 (by decide)).trans rfl⟩

end IndexReader

/-! ## The first end token -/

/-- Puts an end token one position behind the last token, unless that is an end token. -/
def Token.supplyFinish (tokens : List Token) : List Token :=
  match tokens.getLast? with
  | none => [⟨.finish, 0⟩]
  | some token =>
    if token.kind = .finish then tokens
    else tokens ++ [⟨.finish, token.position + 1⟩]

theorem Token.finishPosition_of_inside {tokens : List Token}
    (inside : ∀ token ∈ tokens, token.kind ≠ .finish) :
    finishPosition tokens = (tokens.getLast?.map (·.position + 1)).getD 0 := by
  have none : tokens.find? isFinish = none := by simpa using not_isFinish_of_inside inside
  rw [finishPosition, none]
  cases tokens.getLast? with
  | none => rfl
  | some token => rfl

theorem Token.supplyFinish_of_inside {tokens : List Token}
    (inside : ∀ token ∈ tokens, token.kind ≠ .finish) :
    supplyFinish tokens =
      tokens ++ [⟨.finish, (tokens.getLast?.map (·.position + 1)).getD 0⟩] := by
  unfold supplyFinish
  cases last : tokens.getLast? with
  | none =>
      rw [List.getLast?_eq_none_iff.mp last]
      rfl
  | some token => exact if_neg (inside token (List.mem_of_mem_getLast? last))

/-- A list with an end token has one already, and what is put behind it does not come first. -/
theorem Token.supplyFinish_append (front behind : List Token) (ending : Token) :
    ∃ others, supplyFinish (front ++ ending :: behind) = front ++ ending :: others := by
  unfold supplyFinish
  split
  · next empty => simp at empty
  · next token _ =>
      split
      · exact ⟨behind, rfl⟩
      · exact ⟨behind ++ [⟨.finish, token.position + 1⟩], by simp⟩

/-- The end token in front of which the list is read stands in the completed list. -/
theorem Token.exists_supplyFinish_eq (tokens : List Token) :
    ∃ behind, supplyFinish tokens =
      tokens.takeWhile (!·.isFinish) ++ ⟨.finish, finishPosition tokens⟩ :: behind := by
  by_cases ended : ∃ token ∈ tokens, token.kind = .finish
  · obtain ⟨front, ending, behind, rfl, inside, finish⟩ := exists_first_finish ended
    rw [takeWhile_first_finish inside finish, finishPosition_first_finish inside finish, ← finish]
    exact supplyFinish_append front behind ending
  · have inside : ∀ token ∈ tokens, token.kind ≠ .finish :=
      fun token member finish => ended ⟨token, member, finish⟩
    have front : tokens.takeWhile (!·.isFinish) = tokens :=
      takeWhile_of_inside inside
    rw [front, finishPosition_of_inside inside]
    exact ⟨[], supplyFinish_of_inside inside⟩

namespace IndexReader

/-- Reads a list of tokens whose end token may be missing. -/
def parse (limits : Limits) (tokens : List Token) : Except Stop Expr :=
  read ⟨Token.supplyFinish tokens, limits⟩ (tokens.length + 1)

theorem parse_eq (limits : Limits) (tokens : List Token) :
    parse limits tokens = (Expr.ofTokens limits tokens).mapError .refused := by
  refine read_eq ⟨rfl, Token.exists_supplyFinish_eq tokens, Reader.State.inside_ofTokens⟩ ?_
  exact Nat.lt_succ_of_le (List.takeWhile_prefix _).length_le

end IndexReader

/-- Only the front of a list and the place of its end matter. -/
theorem Expr.ofTokens_congr {limits : Limits} {tokens others : List Token}
    (front : tokens.takeWhile (!·.isFinish) = others.takeWhile (!·.isFinish))
    (finish : Token.finishPosition tokens = Token.finishPosition others) :
    ofTokens limits tokens = ofTokens limits others := by
  unfold ofTokens reading Reader.Context.ofTokens Reader.State.ofTokens
  rw [front, finish]

namespace IndexReader

/-- A list that has an end token is read like its part up to the first one, and a list without an
end token like the list with one behind its last token; with an index and without. -/
theorem parse_upToFinish (limits : Limits) (tokens : List Token) :
    parse limits tokens = (Expr.ofTokens limits tokens).mapError .refused ∧
      ((∃ token ∈ tokens, token.kind = .finish) →
        ∃ front ending behind, tokens = front ++ ending :: behind ∧
          (∀ token ∈ front, token.kind ≠ .finish) ∧ ending.kind = .finish ∧
          parse limits tokens = parse limits (front ++ [ending]) ∧
          Expr.ofTokens limits tokens = Expr.ofTokens limits (front ++ [ending])) ∧
      ((∀ token ∈ tokens, token.kind ≠ .finish) →
        let ending : Token := ⟨.finish, (tokens.getLast?.map (·.position + 1)).getD 0⟩
        parse limits tokens = parse limits (tokens ++ [ending]) ∧
          Expr.ofTokens limits tokens = Expr.ofTokens limits (tokens ++ [ending])) := by
  refine ⟨parse_eq limits tokens, ?_, ?_⟩
  · intro ended
    obtain ⟨front, ending, behind, rfl, inside, finish⟩ := Token.exists_first_finish ended
    have same : Expr.ofTokens limits (front ++ ending :: behind) =
        Expr.ofTokens limits (front ++ [ending]) := by
      apply Expr.ofTokens_congr
      · rw [Token.takeWhile_first_finish inside finish, Token.takeWhile_first_finish inside finish]
      · rw [Token.finishPosition_first_finish inside finish,
          Token.finishPosition_first_finish inside finish]
    refine ⟨front, ending, behind, rfl, inside, finish, ?_, same⟩
    rw [parse_eq, parse_eq, same]
  · intro inside ending
    have same : Expr.ofTokens limits tokens = Expr.ofTokens limits (tokens ++ [ending]) := by
      apply Expr.ofTokens_congr
      · rw [Token.takeWhile_first_finish inside rfl]
        exact Token.takeWhile_of_inside inside
      · rw [Token.finishPosition_first_finish inside rfl, Token.finishPosition_of_inside inside]
    exact ⟨by rw [parse_eq, parse_eq, same], same⟩

/-- Behind the first end token a closing parenthesis and a second end token do not matter, and
without an end token `2 *` ends behind its operator. -/
theorem parse_upToFinish_of_dangling :
    let tokens : List Token := [⟨.number 2, 0⟩, ⟨.operator '*', 5⟩]
    let others : List Token := [⟨.finish, 9⟩, ⟨.rightParenthesis, 1⟩, ⟨.finish, 3⟩]
    (∃ token ∈ tokens ++ others, token.kind = .finish) ∧
      (∀ token ∈ tokens, token.kind ≠ .finish) ∧
      parse .standard (tokens ++ others) = parse .standard (tokens ++ [⟨.finish, 9⟩]) ∧
      parse .standard tokens = parse .standard (tokens ++ [⟨.finish, 6⟩]) ∧
      parse .standard (tokens ++ others) = .error (.refused (.unexpectedToken .finish 9)) ∧
      parse .standard tokens = .error (.refused (.unexpectedToken .finish 6)) := by
  intro tokens others
  have ended : ∃ token ∈ tokens ++ others, token.kind = .finish :=
    ⟨⟨.finish, 9⟩, by simp [others], rfl⟩
  have inside : ∀ token ∈ tokens, token.kind ≠ .finish := by simp [tokens]
  obtain ⟨parsed, closed, _⟩ := parse_upToFinish .standard (tokens ++ others)
  obtain ⟨openParsed, _, supplied⟩ := parse_upToFinish .standard tokens
  refine ⟨ended, inside, ?_, (supplied inside).1, parsed.trans rfl, openParsed.trans rfl⟩
  obtain ⟨front, ending, behind, split, frontInside, finish, same, _⟩ := closed ended
  have frontEq : front = tokens := by
    rw [← Token.takeWhile_first_finish frontInside finish, ← split]
    rfl
  rw [frontEq] at split same
  obtain ⟨endingEq, _⟩ := List.cons.inj (List.append_cancel_left split)
  rw [← endingEq] at same
  exact same

end IndexReader

end Reckoner
