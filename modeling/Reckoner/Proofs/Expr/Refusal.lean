import Reckoner.Proofs.Expr.Limits
import Reckoner.Proofs.Expr.Outlook

/-!
# Where the reader gives up

Every reader of an expression follows the outlook, token by token.  Where one of them gives up, and
no limit is the reason, the next token is one that the outlook refuses, and the error is the one
that `Reader.refusal` gives for this token and for the parentheses that are open.

So the tokens in front of the refused one are always the beginning of some expression, and no
expression goes on with the refused one.
-/

namespace Reckoner

/-- The positions of the open parentheses behind one more token, the innermost first. -/
def Token.regroup (groups : List Nat) (token : Token) : List Nat :=
  match token.kind with
  | .leftParenthesis => token.position :: groups
  | .rightParenthesis => groups.tail
  | _ => groups

namespace Outlook

/-- An operand may come next. -/
def Wants (outlook : Outlook) (kind : TokenKind) : Prop :=
  outlook.phase = .operand ∨ outlook.phase = .argument ∧ kind ≠ .rightParenthesis

variable {outlook : Outlook} {kind : TokenKind} {calls : List Bool}

theorem Wants.after_eq (wants : outlook.Wants kind) :
    outlook.after kind = beforeOperand outlook.calls kind := by
  obtain ⟨phase, calls⟩ := outlook
  rcases wants with same | ⟨same, other⟩
  · cases same
    rfl
  · cases same
    exact if_neg other

theorem Wants.refuses (wants : outlook.Wants kind)
    (refused : beforeOperand outlook.calls kind = none) : outlook.Refuses kind := by
  refine ⟨wants.after_eq.trans refused, ?_⟩
  rintro _ ⟨named, rfl⟩
  rcases wants with same | ⟨same, _⟩ <;> contradiction

theorem refuses_of_after (refused : outlook.after kind = none) (inside : kind ≠ .finish) :
    outlook.Refuses kind :=
  ⟨refused, fun finish => absurd finish inside⟩

theorem wants_operand : Wants ⟨.operand, calls⟩ kind :=
  .inl rfl

end Outlook

namespace Reader

variable {α : Type} {context : Context} {start middle final : State}
  {outlook between reached : Outlook} {level : Level} {error : ParseError}

/-- The error for a token that cannot come next while these parentheses are open. -/
def refusal (groups : List Nat) (culprit : Token) : ParseError :=
  match culprit.kind, groups with
  | .rightParenthesis, [] => .unmatchedParenthesis culprit.position
  | .rightParenthesis, _ :: _ => .emptyExpression culprit.position
  | .finish, position :: _ => .unmatchedParenthesis position
  | _, _ => unexpected culprit

theorem refusal_eq_unexpected {groups : List Nat} {culprit : Token}
    (noRight : culprit.kind ≠ .rightParenthesis) (noFinish : culprit.kind ≠ .finish) :
    refusal groups culprit = unexpected culprit := by
  unfold refusal
  split
  · next right => exact absurd right noRight
  · next right => exact absurd right noRight
  · next finish => exact absurd finish noFinish
  · rfl

/-- From the one state to the other the outlook is followed, and the open parentheses are those
that the tokens leave open. -/
def Goes (start : State) (outlook : Outlook) (final : State) (reached : Outlook) : Prop :=
  ∃ used, start.rest = used ++ final.rest ∧
    outlook.follow (used.map Token.kind) = some reached ∧
    final.groups = used.foldl Token.regroup start.groups

theorem Goes.refl : Goes start outlook start outlook :=
  ⟨[], rfl, rfl, rfl⟩

theorem Goes.trans (first : Goes start outlook middle between)
    (later : Goes middle between final reached) : Goes start outlook final reached := by
  obtain ⟨used, rest, run, groups⟩ := first
  obtain ⟨laterUsed, laterRest, laterRun, laterGroups⟩ := later
  refine ⟨used ++ laterUsed, ?_, ?_, ?_⟩
  · rw [rest, laterRest, List.append_assoc]
  · rw [List.map_append, Outlook.follow_append run, laterRun]
  · rw [laterGroups, groups, List.foldl_append]

theorem Goes.length (goes : Goes start outlook final reached) :
    final.rest.length ≤ start.rest.length := by
  obtain ⟨used, rest, _, _⟩ := goes
  rw [rest, List.length_append]
  omega

section Next

variable {kind : TokenKind}

theorem Goes.next (next : (start.next context).kind = kind) (inside : kind ≠ .finish)
    (taken : outlook.after kind = some reached) :
    Goes start outlook
      { start with
        rest := start.rest.tail
        groups := (start.next context).regroup start.groups }
      reached := by
  obtain ⟨rest, tokens⟩ := State.rest_eq_cons next inside
  refine ⟨[start.next context], ?_, ?_, rfl⟩
  · rw [tokens]
    rfl
  · rw [List.map_singleton, next, Outlook.follow_cons taken, Outlook.follow_nil]

/-- A token that is no parenthesis leaves the open parentheses as they are. -/
theorem Goes.plain (next : (start.next context).kind = kind) (inside : kind ≠ .finish)
    (noLeft : kind ≠ .leftParenthesis) (noRight : kind ≠ .rightParenthesis)
    (taken : outlook.after kind = some reached) :
    Goes start outlook { start with rest := start.rest.tail } reached := by
  have same : (start.next context).regroup start.groups = start.groups := by
    unfold Token.regroup
    split <;> simp_all
  have goes := Goes.next next inside taken
  rwa [same] at goes

theorem Goes.opened (next : (start.next context).kind = .leftParenthesis)
    (taken : outlook.after .leftParenthesis = some reached) :
    Goes start outlook
      { start with
        rest := start.rest.tail
        groups := (start.next context).position :: start.groups }
      reached := by
  have same : (start.next context).regroup start.groups =
      (start.next context).position :: start.groups := by
    rw [Token.regroup, next]
  have goes := Goes.next next (by decide) taken
  rwa [same] at goes

theorem Goes.closed (next : (start.next context).kind = .rightParenthesis)
    (taken : outlook.after .rightParenthesis = some reached) :
    Goes start outlook
      { start with
        rest := start.rest.tail
        groups := start.groups.tail }
      reached := by
  have same : (start.next context).regroup start.groups = start.groups.tail := by
    rw [Token.regroup, next]
  have goes := Goes.next next (by decide) taken
  rwa [same] at goes

end Next

/-- Some beginning of the tokens is followed by a token that the outlook refuses, and the error is
the one for that token. -/
def Stuck (context : Context) (start : State) (outlook : Outlook) (error : ParseError) : Prop :=
  ∃ final reached, Goes start outlook final reached ∧
    reached.Refuses (final.next context).kind ∧
    error = refusal final.groups (final.next context)

def Halts (context : Context) (start : State) (outlook : Outlook) (error : ParseError) : Prop :=
  (∃ limit, error = .tooDeep limit) ∨ Stuck context start outlook error

theorem Halts.behind (halts : Halts context middle between error)
    (goes : Goes start outlook middle between) : Halts context start outlook error := by
  rcases halts with limited | ⟨final, reached, later, refuses, same⟩
  · exact .inl limited
  · exact .inr ⟨final, reached, goes.trans later, refuses, same⟩

theorem halts_here (refuses : outlook.Refuses (start.next context).kind)
    (same : error = refusal start.groups (start.next context)) :
    Halts context start outlook error :=
  .inr ⟨start, outlook, .refl, refuses, same⟩

/-- An operand of this level is behind the reader, as a whole: what comes next is not read as a part
of it. -/
structure Passes (context : Context) (level : Level) (start : State) (outlook : Outlook)
    (final : State) : Prop where
  goes : ∃ named, Goes start outlook final ⟨.operator named, outlook.calls⟩ ∧
    ((final.next context).kind = .leftParenthesis → named = false)
  groups : final.groups = start.groups
  loose : ∀ operator : Operator,
    (final.next context).kind = .operator operator.symbol → operator.level < level

/-- The reader follows the outlook where an operand is wanted. -/
def Walks (context : Context) (level : Level) (reader : Reader Measured) : Prop :=
  ∀ start outlook, outlook.Wants (start.next context).kind →
    Ends reader start (fun _ final => Passes context level start outlook final)
      (fun error _ => Halts context start outlook error)

theorem checkHeight_walks {node : Measured} {succeeds : Measured → State → Prop}
    (success : succeeds node middle) :
    Ends (checkHeight context node) middle succeeds
      (fun error _ => Halts context start outlook error) := by
  unfold checkHeight
  split
  · exact .inl ⟨_, rfl⟩
  · exact success

section Chain

variable {symbols : List Char} {inner outer : Level} {operand : Reader Measured}

/-- Every step takes an operator, so the loop only ends where no operator of the chain comes. -/
theorem chainFrom_walks (written : ∀ symbol ∈ symbols, ∃ operator : Operator,
      symbol = operator.symbol)
    (gap : ∀ operator : Operator, operator.level < inner →
      operator.symbol ∈ symbols ∨ operator.level < outer)
    (walks : Walks context inner operand) (steps : Nat) (left : Measured)
    (enough : middle.rest.length ≤ steps) (passes : Passes context inner start outlook middle) :
    Ends (chainFrom context symbols operand steps left) middle
      (fun _ final => Passes context outer start outlook final)
      (fun error _ => Halts context start outlook error) := by
  induction steps generalizing left middle with
  | zero =>
      have empty := List.eq_nil_of_length_eq_zero (Nat.le_zero.mp enough)
      refine ⟨passes.goes, passes.groups, fun operator next => ?_⟩
      rw [State.next, empty] at next
      contradiction
  | succ steps induction =>
      obtain ⟨named, goes, _⟩ := passes.goes
      unfold chainFrom
      by_cases follows : ∃ symbol ∈ symbols, (middle.next context).kind = .operator symbol
      · obtain ⟨symbol, member, next⟩ := follows
        obtain ⟨operator, rfl⟩ := written symbol member
        obtain ⟨rest, tokens⟩ := State.rest_eq_cons next (by simp)
        have operatorGoes : Goes start outlook { middle with rest := rest }
            ⟨.operand, outlook.calls⟩ := by
          have taken : Goes middle ⟨.operator named, outlook.calls⟩ _ _ :=
            .plain next (by simp) (by simp) (by simp) Outlook.after_operator
          rw [tokens] at taken
          exact goes.trans taken
        have run : readOperator context symbols middle =
            .ok (some operator) { middle with rest := rest } :=
          readOperator_some member (by rw [tokens, ← next])
        rw [ends_bind, ends_iff_of_eq_ok run]
        refine (walks _ ⟨.operand, outlook.calls⟩ Outlook.wants_operand).bind ?_ ?_
        · exact fun error _ halts => halts.behind operatorGoes
        · intro right final rightPasses
          obtain ⟨rightNamed, rightGoes, unnamed⟩ := rightPasses.goes
          have fewer := rightGoes.length
          refine ends_bind.mpr (checkHeight_walks (induction _ ?_ ?_))
          · rw [tokens, List.length_cons] at enough
            exact Nat.le_trans fewer (Nat.le_of_succ_le_succ enough)
          · exact ⟨⟨rightNamed, operatorGoes.trans rightGoes, unnamed⟩,
              rightPasses.groups.trans passes.groups, rightPasses.loose⟩
      · have other : ∀ symbol ∈ symbols, (middle.next context).kind ≠ .operator symbol := by
          intro symbol member next
          exact follows ⟨symbol, member, next⟩
        rw [ends_bind, ends_iff_of_eq_ok (readOperator_none other)]
        refine ⟨passes.goes, passes.groups, fun operator next => ?_⟩
        rcases gap operator (passes.loose operator next) with member | lower
        · exact absurd next (other _ member)
        · exact lower

theorem chain_walks (written : ∀ symbol ∈ symbols, ∃ operator : Operator,
      symbol = operator.symbol)
    (gap : ∀ operator : Operator, operator.level < inner →
      operator.symbol ∈ symbols ∨ operator.level < outer)
    (walks : Walks context inner operand) :
    Walks context outer (chain context symbols operand) := by
  intro start outlook wants
  unfold chain
  refine (walks start outlook wants).bind (fun _ _ halts => halts) ?_
  intro first middle passes
  rw [ends_get_bind]
  exact chainFrom_walks written gap walks _ first (Nat.le_refl _) passes

end Chain

section Operand

variable {signed : Reader Measured} {call : Bool} {calls : List Bool}

theorem sum_walks (walks : Walks context .power signed) :
    Walks context .sum (sum context signed) := by
  have products : Walks context .product (product context signed) := by
    refine chain_walks products.written ?_ walks
    intro operator
    cases operator <;> decide
  refine chain_walks sums.written ?_ products
  intro operator
  cases operator <;> decide

/-- Behind a whole sum everything is refused that does not close a parenthesis, divide arguments or
end the expression. -/
theorem Passes.refused (passes : Passes context .sum start outlook middle) :
    ∃ named, Goes start outlook middle ⟨.operator named, outlook.calls⟩ ∧
      ((middle.next context).kind ≠ .rightParenthesis →
        ((middle.next context).kind = .comma → outlook.calls.head? ≠ some true) →
          Outlook.after ⟨.operator named, outlook.calls⟩ (middle.next context).kind = none) := by
  obtain ⟨named, goes, unnamed⟩ := passes.goes
  refine ⟨named, goes, fun noRight noComma => ?_⟩
  have loose := passes.loose
  simp only [Outlook.after]
  cases kind : (middle.next context).kind with
  | operator symbol =>
      have noSymbol : ¬ Operator.isSymbol symbol = true := by
        intro isSymbol
        obtain ⟨operator, found⟩ := Option.isSome_iff_exists.mp isSymbol
        rw [Operator.ofSymbol?_eq_some_iff.mp found] at kind
        have lower := loose operator kind
        revert lower
        cases operator <;> decide
      exact if_neg noSymbol
  | leftParenthesis => rw [unnamed kind]; rfl
  | rightParenthesis => exact absurd kind noRight
  | comma => exact if_neg (noComma kind)
  | number | identifier | finish => rfl

/-- Where a sum in parentheses or an argument ends, the parenthesis is closed or the next token is
refused. -/
theorem closeGroup_walks (passes : Passes context .sum start outlook middle)
    (inside : outlook.calls = call :: calls) (opened : start.groups ≠ [])
    (noComma : (middle.next context).kind = .comma → call = false) :
    Ends (closeGroup context) middle
      (fun _ final => Goes start outlook final ⟨.operator false, calls⟩ ∧
        final.groups = start.groups.tail)
      (fun error _ => Halts context start outlook error) := by
  obtain ⟨named, goes, refused⟩ := passes.refused
  rw [inside] at goes refused
  rw [← passes.groups] at opened ⊢
  unfold closeGroup
  rw [ends_peek_bind]
  split
  · next kind =>
      rw [ends_advance_bind]
      exact ⟨goes.trans (.closed kind Outlook.after_rightParenthesis), rfl⟩
  · next kind =>
      rw [ends_get_bind]
      refine (halts_here ⟨?_, ?_⟩ ?_).behind goes
      · rw [kind]
        rfl
      · rintro _ ⟨named, same⟩
        cases same
      · obtain ⟨position, others, groups⟩ := List.exists_cons_of_ne_nil opened
        simp [refusal, kind, groups]
  · next noRight noFinish =>
      have none := refused noRight fun comma => by simp [noComma comma]
      exact (halts_here (Outlook.refuses_of_after none noFinish)
        (refusal_eq_unexpected noRight noFinish).symm).behind goes

theorem argumentsFrom_walks (walks : Walks context .power signed) (steps : Nat)
    (read : List Measured) (enough : start.rest.length < steps)
    (wants : outlook.Wants (start.next context).kind) (inside : outlook.calls = true :: calls)
    (opened : start.groups ≠ []) :
    Ends (argumentsFrom context signed steps read) start
      (fun _ final => Goes start outlook final ⟨.operator false, calls⟩ ∧
        final.groups = start.groups.tail)
      (fun error _ => Halts context start outlook error) := by
  induction steps generalizing start outlook read with
  | zero => omega
  | succ steps induction =>
      unfold argumentsFrom
      refine (sum_walks walks start outlook wants).bind (fun _ _ halts => halts) ?_
      intro argument middle passes
      obtain ⟨named, goes, _⟩ := passes.goes
      rw [ends_peek_bind]
      split
      · next kind =>
          have comma : Outlook.after ⟨.operator named, outlook.calls⟩ .comma =
              some ⟨.operand, outlook.calls⟩ :=
            if_pos (congrArg List.head? inside)
          have commaGoes := goes.trans
            (.plain kind (by decide) (by decide) (by decide) comma)
          have fewer : middle.rest.tail.length < steps := by
            obtain ⟨rest, tokens⟩ := State.rest_eq_cons kind (by decide)
            have length := goes.length
            rw [tokens, List.length_cons] at length
            rw [tokens, List.tail_cons]
            omega
          rw [ends_advance_bind]
          refine (induction (argument :: read) fewer Outlook.wants_operand inside ?_).mono ?_ ?_
          · rwa [passes.groups]
          · rintro _ final ⟨later, groups⟩
            exact ⟨commaGoes.trans later, groups.trans (congrArg List.tail passes.groups)⟩
          · exact fun error _ halts => halts.behind commaGoes
      · next noComma =>
          refine (closeGroup_walks passes inside opened (absurd · noComma)).bind
            (fun _ _ halts => halts) ?_
          exact fun _ _ closed => closed

theorem arguments_walks (walks : Walks context .power signed) (calls : List Bool)
    (opened : start.groups ≠ []) :
    Ends (arguments context signed) start
      (fun _ final => Goes start ⟨.argument, true :: calls⟩ final ⟨.operator false, calls⟩ ∧
        final.groups = start.groups.tail)
      (fun error _ => Halts context start ⟨.argument, true :: calls⟩ error) := by
  unfold arguments
  rw [ends_peek_bind]
  split
  · next kind =>
      have run : closeGroup context start =
          .ok () { start with rest := start.rest.tail, groups := start.groups.tail } := by
        simp only [closeGroup, bind, EStateM.bind, peek_run, kind, advance_run]
        rfl
      rw [ends_bind, ends_iff_of_eq_ok run]
      exact ⟨.closed kind rfl, rfl⟩
  · next other =>
      rw [ends_get_bind]
      exact argumentsFrom_walks walks _ [] (Nat.lt_succ_self _) (.inr ⟨rfl, other⟩) rfl opened

/-- Behind a primary that is no name, or a name without a parenthesis. -/
theorem passes_atom {named : Bool}
    (goes : Goes start outlook final ⟨.operator named, outlook.calls⟩)
    (groups : final.groups = start.groups)
    (unnamed : (final.next context).kind = .leftParenthesis → named = false) :
    Passes context .atom start outlook final := by
  refine ⟨⟨named, goes, unnamed⟩, groups, ?_⟩
  intro operator _
  cases operator <;> decide

theorem primary_walks (walks : Walks context .power signed)
    (wants : outlook.Wants (start.next context).kind)
    (unsigned : ∀ symbol, (start.next context).kind = .operator symbol →
      symbol ≠ '+' ∧ symbol ≠ '-') :
    Ends (primary context signed) start
      (fun _ final => Passes context .atom start outlook final)
      (fun error _ => Halts context start outlook error) := by
  have taken := wants.after_eq
  unfold primary
  rw [ends_advance_bind]
  split
  · next value kind =>
      rw [kind] at taken
      exact passes_atom (.plain kind (by simp) (by simp) (by simp) taken) rfl (fun _ => rfl)
  · next name kind =>
      rw [kind] at taken
      have nameGoes := Goes.plain kind (by simp) (by simp) (by simp) taken
      rw [ends_peek_bind]
      split
      · next openingKind =>
          have opened := nameGoes.trans (.opened openingKind rfl)
          rw [ends_advance_bind, ends_openGroup_bind]
          refine (arguments_walks walks outlook.calls (by simp)).bind ?_ ?_
          · exact fun error _ halts => halts.behind opened
          · rintro nodes final ⟨goes, groups⟩
            exact checkHeight_walks (passes_atom (opened.trans goes) groups fun _ => rfl)
      · next other => exact passes_atom nameGoes rfl fun opening => absurd opening other
  · next kind =>
      rw [kind] at taken
      have opened := Goes.opened kind taken
      rw [ends_openGroup_bind, ends_peek_bind]
      split
      · next closingKind =>
          refine (halts_here ?_ (by simp [refusal, closingKind])).behind opened
          rw [closingKind]
          exact Outlook.refuses_of_after rfl (by decide)
      · refine (sum_walks walks _ ⟨.operand, false :: outlook.calls⟩
          Outlook.wants_operand).bind ?_ ?_
        · exact fun error _ halts => halts.behind opened
        · intro inner middle passes
          refine (closeGroup_walks passes rfl (by simp) fun _ => rfl).bind ?_ ?_
          · exact fun error _ halts => halts.behind opened
          · rintro _ final ⟨goes, groups⟩
            exact passes_atom (opened.trans goes) groups fun _ => rfl
  · next kind =>
      have refuses : outlook.Refuses (start.next context).kind := wants.refuses (by rw [kind]; rfl)
      rw [ends_get_bind]
      split
      · next empty =>
          have groups : start.groups = [] := List.isEmpty_iff.mp empty
          exact halts_here refuses (by simp [refusal, kind, groups])
      · next other =>
          obtain ⟨position, others, groups⟩ :=
            List.exists_cons_of_ne_nil (mt List.isEmpty_iff.mpr other)
          dsimp only at groups
          exact halts_here refuses (by simp [refusal, kind, groups])
  · next kind =>
      have refuses : outlook.Refuses (start.next context).kind := wants.refuses (by rw [kind]; rfl)
      rw [ends_get_bind]
      split
      · next groups =>
          dsimp only at groups
          exact halts_here refuses (by simp [refusal, kind, groups])
      · next groups =>
          dsimp only at groups
          exact halts_here refuses (by simp [refusal, kind, groups])
  · next noNumber noName noLeft noRight noFinish =>
      refine halts_here (wants.refuses ?_) (refusal_eq_unexpected noRight noFinish).symm
      cases kind : (start.next context).kind with
      | number value => exact absurd kind (noNumber value)
      | identifier name => exact absurd kind (noName name)
      | operator symbol => exact if_neg (not_or.mpr (unsigned symbol kind))
      | leftParenthesis => exact absurd kind noLeft
      | rightParenthesis | comma | finish => rfl

theorem power_walks (walks : Walks context .power signed)
    (wants : outlook.Wants (start.next context).kind)
    (unsigned : ∀ symbol, (start.next context).kind = .operator symbol →
      symbol ≠ '+' ∧ symbol ≠ '-') :
    Ends (power context signed) start
      (fun _ final => Passes context .power start outlook final)
      (fun error _ => Halts context start outlook error) := by
  unfold power
  refine (primary_walks walks wants unsigned).bind (fun _ _ halts => halts) ?_
  intro base middle passes
  obtain ⟨named, goes, unnamed⟩ := passes.goes
  rw [ends_peek_bind]
  split
  · next kind =>
      have taken : Outlook.after ⟨.operator named, outlook.calls⟩ (.operator '^') =
          some ⟨.operand, outlook.calls⟩ := rfl
      have raised := goes.trans (.plain kind (by simp) (by simp) (by simp) taken)
      rw [ends_advance_bind]
      refine (walks _ ⟨.operand, outlook.calls⟩ Outlook.wants_operand).bind ?_ ?_
      · exact fun error _ halts => halts.behind raised
      · intro exponent final later
        obtain ⟨laterNamed, laterGoes, laterUnnamed⟩ := later.goes
        exact checkHeight_walks ⟨⟨laterNamed, raised.trans laterGoes, laterUnnamed⟩,
          later.groups.trans passes.groups, later.loose⟩
  · next noPower =>
      refine ⟨⟨named, goes, unnamed⟩, passes.groups, ?_⟩
      intro operator kind
      cases operator with
      | power => exact absurd kind noPower
      | add | subtract | multiply | divide | remainder => decide

/-- A sign leaves the outlook as it is. -/
theorem sign_walks {symbol : Char} (walks : Walks context .power signed)
    (wants : outlook.Wants (start.next context).kind)
    (kind : (start.next context).kind = .operator symbol) (sign : symbol = '+' ∨ symbol = '-') :
    Ends signed { start with rest := start.rest.tail }
      (fun _ final => Passes context .power start outlook final)
      (fun error _ => Halts context start outlook error) := by
  have taken : outlook.after (.operator symbol) = some ⟨.operand, outlook.calls⟩ := by
    rw [← kind, wants.after_eq, kind]
    exact if_pos sign
  have goes := Goes.plain kind (by simp) (by simp) (by simp) taken
  refine (walks _ ⟨.operand, outlook.calls⟩ Outlook.wants_operand).mono ?_ ?_
  · intro operand final later
    obtain ⟨named, laterGoes, unnamed⟩ := later.goes
    exact ⟨⟨named, goes.trans laterGoes, unnamed⟩, later.groups, later.loose⟩
  · exact fun error _ halts => halts.behind goes

theorem level_walks (walks : Walks context .power signed) :
    Walks context .power
      (do
        match (← peek context).kind with
        | .operator '-' =>
          let _ ← advance context
          let operand ← signed
          checkHeight context ⟨.negate operand.expression, operand.height + 1⟩
        | .operator '+' =>
          let _ ← advance context
          signed
        | _ => power context signed) := by
  intro start outlook wants
  rw [ends_peek_bind]
  split
  · next kind =>
      rw [ends_advance_bind]
      refine (sign_walks walks wants kind (.inr rfl)).bind (fun _ _ halts => halts) ?_
      exact fun operand final passes => checkHeight_walks passes
  · next kind =>
      rw [ends_advance_bind]
      exact sign_walks walks wants kind (.inl rfl)
  · next noMinus noPlus =>
      refine power_walks walks wants fun symbol kind => ⟨?_, ?_⟩
      · rintro rfl
        exact noPlus kind
      · rintro rfl
        exact noMinus kind

end Operand

/-- The open levels have no influence on the way. -/
theorem nested_walks {inside : Reader Measured} (walks : Walks context level inside) :
    Walks context level (nested context inside) := by
  intro start outlook wants
  by_cases full : context.limits.depth ≤ start.nesting
  · simp only [Ends, nested, full, if_true]
    exact .inl ⟨_, rfl⟩
  · simp only [Ends, nested, full, if_false]
    have ends := walks
      { start with
        nesting := start.nesting + 1
        deepest := max start.deepest (start.nesting + 1) } outlook wants
    revert ends
    unfold Ends
    cases inside
      { start with
        nesting := start.nesting + 1
        deepest := max start.deepest (start.nesting + 1) } with
    | ok node final => exact fun passes => ⟨passes.goes, passes.groups, passes.loose⟩
    | error error final => exact fun halts => halts

theorem signed_walks (context : Context) (calls : Nat) :
    Walks context .power (signed context calls) := by
  induction calls with
  | zero => exact fun start outlook _ => .inl ⟨_, rfl⟩
  | succ calls induction => exact nested_walks (level_walks induction)

/-- The reader of a whole text gives up at the end of an empty one, or at a token that is
refused. -/
theorem whole_walks (closed : start.groups = []) :
    Ends (whole context) start
      (fun _ final => ∃ reached, Goes start .initial final reached ∧ reached.Complete ∧
        (final.next context).kind = .finish)
      (fun error _ => Halts context start .initial error ∨
        (start.next context).kind = .finish ∧
          error = .emptyExpression (start.next context).position) := by
  unfold whole
  rw [ends_peek_bind]
  split
  · next kind => exact .inr ⟨kind, rfl⟩
  · next kind =>
      refine (sum_walks (signed_walks context context.limits.depth) start .initial
        Outlook.wants_operand).bind (fun _ _ halts => .inl halts) ?_
      intro node middle passes
      obtain ⟨named, goes, refused⟩ := passes.refused
      have groups := passes.groups.trans closed
      rw [ends_peek_bind]
      split
      · next ending => exact ⟨_, goes, ⟨named, rfl⟩, ending⟩
      · next closing =>
          have refuses : Outlook.Refuses ⟨.operator named, []⟩ (middle.next context).kind := by
            rw [closing]
            exact Outlook.refuses_of_after rfl (by decide)
          exact .inl ((halts_here refuses (by simp [refusal, closing, groups])).behind goes)
      · next noFinish noRight =>
          have none := refused noRight fun _ => by decide
          exact .inl ((halts_here (Outlook.refuses_of_after none noFinish)
            (refusal_eq_unexpected noRight noFinish).symm).behind goes)

end Reader

end Reckoner
