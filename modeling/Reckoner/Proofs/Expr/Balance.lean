import Reckoner.Proofs.Expr.Refusal

/-!
# What a reader leaves behind

Every reader of an expression has one frame, `Reader.Balances`.  Where it succeeds it has taken at
least one token, the tokens that it has taken close every parenthesis that they open, and the open
groups and levels are those from before.  Where it fails the levels are closed again, but the groups
in which it gave up stay open: they are those of the opening parentheses that have no partner among
the tokens taken so far.  At most one more token has been taken then, which is the refused one.

The frame holds from every state, whatever is open there and whatever the limits are.  The proofs
are parametric in the reader of signed operands, like the readers themselves.
-/

namespace Reckoner

namespace Token

/-- Every parenthesis has a partner. -/
inductive Paired : List Token → Prop where
  | nil : Paired []
  | plain {token : Token} {tokens : List Token} : token.kind ≠ .leftParenthesis →
      token.kind ≠ .rightParenthesis → Paired tokens → Paired (token :: tokens)
  | group {opening closing : Token} {inside tokens : List Token} :
      opening.kind = .leftParenthesis → closing.kind = .rightParenthesis → Paired inside →
      Paired tokens → Paired (opening :: (inside ++ closing :: tokens))

/-- Only opening parentheses lack a partner, and they have these positions, the innermost first. -/
inductive LeavesOpen : List Token → List Nat → Prop where
  | paired {tokens : List Token} : Paired tokens → LeavesOpen tokens []
  | opened {opening : Token} {before inside : List Token} {positions : List Nat} :
      LeavesOpen before positions → opening.kind = .leftParenthesis → Paired inside →
      LeavesOpen (before ++ opening :: inside) (opening.position :: positions)

variable {tokens others : List Token} {positions places : List Nat}

theorem Paired.append (paired : Paired tokens) (later : Paired others) :
    Paired (tokens ++ others) := by
  induction paired with
  | nil => exact later
  | plain noLeft noRight _ induction => exact .plain noLeft noRight induction
  | group left right inside _ _ induction =>
      rw [List.cons_append, List.append_assoc, List.cons_append]
      exact .group left right inside induction

theorem LeavesOpen.append (leaves : LeavesOpen tokens positions)
    (later : LeavesOpen others places) : LeavesOpen (tokens ++ others) (places ++ positions) := by
  induction later with
  | paired behind =>
      cases leaves with
      | paired front => exact .paired (front.append behind)
      | opened before left inside =>
          rw [List.append_assoc, List.cons_append]
          exact .opened before left (inside.append behind)
  | opened _ left inside induction =>
      rw [← List.append_assoc]
      exact .opened induction left inside

theorem LeavesOpen.paired_of_nil (leaves : LeavesOpen tokens []) : Paired tokens := by
  cases leaves with
  | paired paired => exact paired

end Token

namespace Reader

variable {α : Type} {context : Context} {start middle final : State} {error : ParseError}

/-- From the one state to the other these tokens have been taken, of which those at the given
positions have opened a group that is still open. -/
structure State.Passed (start final : State) (used : List Token) (opened : List Nat) : Prop where
  rest : start.rest = used ++ final.rest
  groups : final.groups = opened ++ start.groups
  nesting : final.nesting = start.nesting
  leaves : Token.LeavesOpen used opened

/-- Tokens have been taken, and everything is closed again that they have opened. -/
def State.Completes (start final : State) : Prop :=
  ∃ used, used ≠ [] ∧ start.Passed final used []

/-- The reading has been given up behind some tokens, perhaps with one more token taken, which the
error is about then. -/
structure State.GivesUp (start : State) (error : ParseError) (final : State)
    (used refused : List Token) (opened : List Nat) : Prop where
  rest : start.rest = used ++ (refused ++ final.rest)
  groups : final.groups = opened ++ start.groups
  nesting : final.nesting = start.nesting
  leaves : Token.LeavesOpen used opened
  single : refused.length ≤ 1
  refusal : ∀ token ∈ refused, token.kind ≠ .leftParenthesis ∧ error = refusal final.groups token

def State.Abandons (start : State) (error : ParseError) (final : State) : Prop :=
  ∃ used refused opened, start.GivesUp error final used refused opened

namespace State

variable {used others : List Token} {opened laterOpened : List Nat} {token : Token}
  {rest : List Token}

theorem Passed.refl : start.Passed start [] [] :=
  ⟨rfl, rfl, rfl, .paired .nil⟩

theorem Passed.trans (first : start.Passed middle used opened)
    (later : middle.Passed final others laterOpened) :
    start.Passed final (used ++ others) (laterOpened ++ opened) where
  rest := by rw [first.rest, later.rest, List.append_assoc]
  groups := by rw [later.groups, first.groups, List.append_assoc]
  nesting := later.nesting.trans first.nesting
  leaves := first.leaves.append later.leaves

/-- Taking a token that is no parenthesis. -/
theorem Passed.plain (noLeft : token.kind ≠ .leftParenthesis)
    (noRight : token.kind ≠ .rightParenthesis) (tokens : start.rest = token :: rest) :
    start.Passed { start with rest := rest } [token] [] :=
  ⟨tokens, rfl, rfl, .paired (.plain noLeft noRight .nil)⟩

theorem Passed.opening (left : token.kind = .leftParenthesis)
    (tokens : start.rest = token :: rest) :
    start.Passed { start with rest := rest, groups := token.position :: start.groups } [token]
      [token.position] :=
  ⟨tokens, rfl, rfl, .opened (.paired .nil) left .nil⟩

theorem Passed.completes (passed : start.Passed middle used [])
    (completes : middle.Completes final) : start.Completes final := by
  obtain ⟨others, nonempty, later⟩ := completes
  exact ⟨used ++ others, List.append_ne_nil_of_right_ne_nil used nonempty, passed.trans later⟩

theorem Completes.trans (first : start.Completes middle) (later : middle.Completes final) :
    start.Completes final := by
  obtain ⟨used, _, passed⟩ := first
  exact passed.completes later

theorem Completes.plain (completes : start.Completes middle)
    (noLeft : token.kind ≠ .leftParenthesis) (noRight : token.kind ≠ .rightParenthesis)
    (tokens : middle.rest = token :: rest) :
    start.Completes { middle with rest := rest } :=
  completes.trans ⟨[token], List.cons_ne_nil _ _, .plain noLeft noRight tokens⟩

theorem Completes.length_lt (completes : start.Completes final) :
    final.rest.length < start.rest.length := by
  obtain ⟨used, nonempty, passed⟩ := completes
  have taken := List.length_pos_iff.mpr nonempty
  rw [passed.rest, List.length_append]
  omega

theorem Completes.nesting_eq (completes : start.Completes final) :
    final.nesting = start.nesting := by
  obtain ⟨_, _, passed⟩ := completes
  exact passed.nesting

theorem Completes.groups_eq (completes : start.Completes final) : final.groups = start.groups := by
  obtain ⟨_, _, passed⟩ := completes
  exact passed.groups

theorem Passed.abandons (passed : start.Passed final used opened) : start.Abandons error final :=
  ⟨used, [], opened, passed.rest, passed.groups, passed.nesting, passed.leaves, Nat.zero_le 1,
    by simp⟩

theorem Completes.abandons (completes : start.Completes final) : start.Abandons error final := by
  obtain ⟨_, _, passed⟩ := completes
  exact passed.abandons

/-- Giving up behind tokens that have been taken is giving up the whole. -/
theorem Abandons.behind (abandons : middle.Abandons error final)
    (passed : start.Passed middle used opened) : start.Abandons error final := by
  obtain ⟨others, refused, laterOpened, given⟩ := abandons
  refine ⟨used ++ others, refused, laterOpened ++ opened, ?_, ?_, ?_, ?_, given.single,
    given.refusal⟩
  · rw [passed.rest, given.rest, List.append_assoc]
  · rw [given.groups, passed.groups, List.append_assoc]
  · exact given.nesting.trans passed.nesting
  · exact passed.leaves.append given.leaves

theorem Abandons.of_completes (abandons : middle.Abandons error final)
    (completes : start.Completes middle) : start.Abandons error final := by
  obtain ⟨_, _, passed⟩ := completes
  exact abandons.behind passed

end State

/-- The reader leaves the open groups and levels as its frame says. -/
def Balances (reader : Reader α) : Prop :=
  ∀ start : State, Ends reader start (fun _ final => start.Completes final)
    start.Abandons

theorem Balances.completes {reader : Reader α} {value : α} (balances : Balances reader)
    (run : reader start = .ok value final) : start.Completes final :=
  (ends_iff_of_eq_ok run).mp (balances start)

theorem Balances.abandons {reader : Reader α} (balances : Balances reader)
    (run : reader start = .error error final) : start.Abandons error final :=
  (ends_iff_of_eq_error run).mp (balances start)

theorem checkHeight_balances {node : Measured} (completes : start.Completes middle) :
    Ends (checkHeight context node) middle (fun _ final => start.Completes final)
      start.Abandons := by
  unfold checkHeight
  split
  · exact completes.abandons
  · exact completes

/-- An operator is taken, or nothing. -/
theorem readOperator_ends (symbols : List Char) :
    Ends (readOperator context symbols) start
      (fun read final => read = none ∧ final = start ∨ start.Completes final)
      (fun _ _ => False) := by
  unfold readOperator
  rw [ends_peek_bind]
  split
  · next symbol kind =>
      obtain ⟨rest, tokens⟩ := State.rest_eq_cons kind (by simp)
      split
      · rw [ends_advance_bind, tokens, List.tail_cons]
        exact .inr ⟨_, List.cons_ne_nil _ _, .plain (by simp [kind]) (by simp [kind]) tokens⟩
      · exact .inl ⟨rfl, rfl⟩
  · exact .inl ⟨rfl, rfl⟩

section Operand

variable {operand signed : Reader Measured}

theorem chainFrom_balances {symbols : List Char} (balances : Balances operand) (steps : Nat)
    {left : Measured} (completes : start.Completes middle) :
    Ends (chainFrom context symbols operand steps left) middle
      (fun _ final => start.Completes final) start.Abandons := by
  induction steps generalizing left middle with
  | zero => exact completes
  | succ steps induction =>
      unfold chainFrom
      refine (readOperator_ends symbols).bind (fun _ _ never => never.elim) ?_
      intro read behind operatorRead
      have behindCompletes : start.Completes behind := by
        rcases operatorRead with ⟨_, rfl⟩ | operatorCompletes
        · exact completes
        · exact completes.trans operatorCompletes
      cases read with
      | none => exact behindCompletes
      | some operator =>
          refine (balances behind).bind ?_ ?_
          · exact fun _ _ abandons => abandons.of_completes behindCompletes
          · intro right afterRight rightCompletes
            exact (checkHeight_balances (behindCompletes.trans rightCompletes)).bind
              (fun _ _ abandons => abandons) fun _ _ joined => induction joined

theorem chain_balances (symbols : List Char) (balances : Balances operand) :
    Balances (chain context symbols operand) := by
  intro start
  unfold chain
  refine (balances start).bind (fun _ _ abandons => abandons) ?_
  intro first middle completes
  rw [ends_get_bind]
  exact chainFrom_balances balances _ completes

theorem product_balances (balances : Balances signed) : Balances (product context signed) :=
  chain_balances _ balances

theorem sum_balances (balances : Balances signed) : Balances (sum context signed) :=
  chain_balances _ (product_balances balances)

/-- Tokens have been taken up to and with the parenthesis that closes the innermost open group. -/
def State.Closes (start final : State) : Prop :=
  ∃ inside closing, Token.Paired inside ∧ closing.kind = .rightParenthesis ∧
    start.rest = inside ++ closing :: final.rest ∧ final.groups = start.groups.tail ∧
    final.nesting = start.nesting

theorem State.Passed.closes {used : List Token} (passed : start.Passed middle used [])
    (closes : middle.Closes final) : start.Closes final := by
  obtain ⟨inside, closing, paired, right, rest, groups, nesting⟩ := closes
  refine ⟨used ++ inside, closing, passed.leaves.paired_of_nil.append paired, right, ?_, ?_, ?_⟩
  · rw [passed.rest, rest, List.append_assoc]
  · rw [groups, passed.groups, List.nil_append]
  · exact nesting.trans passed.nesting

/-- A group that has been opened is complete when it has been closed. -/
theorem State.Closes.completes {opening : Token} {rest : List Token}
    (left : opening.kind = .leftParenthesis) (tokens : start.rest = opening :: rest)
    (closes : State.Closes
      { start with rest := rest, groups := opening.position :: start.groups } final) :
    start.Completes final := by
  obtain ⟨inside, closing, paired, right, restEq, groups, nesting⟩ := closes
  refine ⟨opening :: (inside ++ [closing]), List.cons_ne_nil _ _, ?_, groups, nesting,
    .paired (.group left right paired .nil)⟩
  dsimp only at restEq
  rw [tokens, restEq]
  simp

theorem closeGroup_balances :
    Ends (closeGroup context) start (fun _ final => start.Closes final)
      start.Abandons := by
  refine closeGroup_ends.mono ?_ ?_
  · rintro _ final ⟨position, rest, tokens, rfl⟩
    exact ⟨[], ⟨.rightParenthesis, position⟩, .nil, rfl, tokens, rfl, rfl⟩
  · rintro error final ⟨rfl, _⟩
    exact State.Passed.refl.abandons

/-- What has been read inside of a group is followed by its closing. -/
theorem closeGroup_behind {used : List Token} (passed : start.Passed middle used []) :
    Ends (closeGroup context) middle (fun _ final => start.Closes final)
      start.Abandons :=
  closeGroup_balances.mono (fun _ _ closes => passed.closes closes)
    fun _ _ abandons => abandons.behind passed

theorem argumentsFrom_balances (balances : Balances signed) (steps : Nat)
    (earlier : List Measured) :
    Ends (argumentsFrom context signed steps earlier) start (fun _ final => start.Closes final)
      start.Abandons := by
  induction steps generalizing start earlier with
  | zero =>
      exact closeGroup_balances.bind (fun _ _ abandons => abandons) fun _ _ closes => closes
  | succ steps induction =>
      unfold argumentsFrom
      refine (sum_balances balances start).bind (fun _ _ abandons => abandons) ?_
      rintro first middle ⟨used, _, passed⟩
      rw [ends_peek_bind]
      split
      · next kind =>
          obtain ⟨rest, tokens⟩ := State.rest_eq_cons kind (by decide)
          have commaPassed := passed.trans
            (.plain (by rw [kind]; decide) (by rw [kind]; decide) tokens)
          rw [ends_advance_bind, tokens, List.tail_cons]
          exact (induction (first :: earlier)).mono
            (fun _ _ closes => commaPassed.closes closes)
            fun _ _ abandons => abandons.behind commaPassed
      · exact (closeGroup_behind passed).bind (fun _ _ abandons => abandons)
          fun _ _ closes => closes

theorem arguments_balances (balances : Balances signed) :
    Ends (arguments context signed) start (fun _ final => start.Closes final)
      start.Abandons := by
  unfold arguments
  rw [ends_peek_bind]
  split
  · exact closeGroup_balances.bind (fun _ _ abandons => abandons) fun _ _ closes => closes
  · rw [ends_get_bind]
    exact argumentsFrom_balances balances _ []

/-- A token that is no opening parenthesis is taken and refused. -/
theorem abandons_of_refused (noOpening : (start.next context).kind ≠ .leftParenthesis)
    (same : error = refusal start.groups (start.next context)) :
    start.Abandons error { start with rest := start.rest.tail } := by
  cases tokens : start.rest with
  | nil => exact ⟨[], [], [], tokens, rfl, rfl, .paired .nil, Nat.zero_le 1, by simp⟩
  | cons token rest =>
      rw [State.next, tokens, List.headD_cons] at noOpening same
      refine ⟨[], [token], [], tokens, rfl, rfl, .paired .nil, Nat.le_refl 1, ?_⟩
      intro other member
      cases List.mem_singleton.mp member
      exact ⟨noOpening, same⟩

theorem call_balances (balances : Balances signed) {name opening : Token} {function : String}
    {inside : List Token} (nameKind : name.kind = .identifier function)
    (left : opening.kind = .leftParenthesis) (tokens : start.rest = name :: opening :: inside) :
    Ends (do
      let nodes ← arguments context signed
      checkHeight context
        ⟨.call function (nodes.map Measured.expression), 1 + greatestHeight nodes⟩)
      { start with rest := inside, groups := opening.position :: start.groups }
      (fun _ final => start.Completes final) start.Abandons := by
  have named : start.Passed { start with rest := opening :: inside } [name] [] :=
    .plain (by simp [nameKind]) (by simp [nameKind]) tokens
  have opened := named.trans (.opening left rfl)
  refine (arguments_balances balances).bind (fun _ _ abandons => abandons.behind opened) ?_
  intro nodes middle closes
  exact checkHeight_balances (named.completes (closes.completes left rfl))

theorem primary_balances (balances : Balances signed) : Balances (primary context signed) := by
  intro start
  unfold primary
  rw [ends_advance_bind]
  split
  · next value kind =>
      obtain ⟨rest, tokens⟩ := State.rest_eq_cons kind (by simp)
      rw [tokens, List.tail_cons]
      exact ⟨_, List.cons_ne_nil _ _, .plain (by simp [kind]) (by simp [kind]) tokens⟩
  · next name kind =>
      obtain ⟨rest, tokens⟩ := State.rest_eq_cons kind (by simp)
      rw [tokens, List.tail_cons, ends_peek_bind]
      split
      · next left =>
          obtain ⟨inside, insideTokens⟩ := State.rest_eq_cons left (by decide)
          rw [ends_advance_bind, ends_openGroup_bind]
          dsimp only at insideTokens ⊢
          rw [insideTokens] at tokens ⊢
          exact call_balances balances kind left tokens
      · exact ⟨_, List.cons_ne_nil _ _, .plain (by simp [kind]) (by simp [kind]) tokens⟩
  · next kind =>
      obtain ⟨rest, tokens⟩ := State.rest_eq_cons kind (by decide)
      have opened := State.Passed.opening kind tokens
      rw [tokens, List.tail_cons, ends_openGroup_bind, ends_peek_bind]
      split
      · exact opened.abandons
      · refine (sum_balances balances _).bind (fun _ _ abandons => abandons.behind opened) ?_
        rintro inner middle ⟨used, _, passed⟩
        refine (closeGroup_behind passed).bind (fun _ _ abandons => abandons.behind opened) ?_
        exact fun _ _ closes => closes.completes kind tokens
  · next kind =>
      have noOpening : (start.next context).kind ≠ .leftParenthesis := by simp [kind]
      rw [ends_get_bind]
      split
      · next none =>
          have groups : start.groups = [] := List.isEmpty_iff.mp none
          have same : ParseError.unmatchedParenthesis (start.next context).position =
              refusal start.groups (start.next context) := by
            simp [refusal, kind, groups]
          exact abandons_of_refused noOpening same
      · next some =>
          have nonempty : start.groups ≠ [] := mt List.isEmpty_iff.mpr some
          obtain ⟨position, others, groups⟩ := List.exists_cons_of_ne_nil nonempty
          have same : ParseError.emptyExpression (start.next context).position =
              refusal start.groups (start.next context) := by
            simp [refusal, kind, groups]
          exact abandons_of_refused noOpening same
  · next kind =>
      have noOpening : (start.next context).kind ≠ .leftParenthesis := by simp [kind]
      rw [ends_get_bind]
      split
      · next none =>
          have groups : start.groups = [] := none
          have same : unexpected (start.next context) =
              refusal start.groups (start.next context) := by
            simp [refusal, kind, groups]
          exact abandons_of_refused noOpening same
      · next position others some =>
          have groups : start.groups = position :: others := some
          have same : ParseError.unmatchedParenthesis position =
              refusal start.groups (start.next context) := by
            simp [refusal, kind, groups]
          exact abandons_of_refused noOpening same
  · next noNumber noName noLeft noRight noFinish =>
      exact abandons_of_refused noLeft (refusal_eq_unexpected noRight noFinish).symm

theorem power_balances (balances : Balances signed) : Balances (power context signed) := by
  intro start
  unfold power
  refine (primary_balances balances start).bind (fun _ _ abandons => abandons) ?_
  intro base middle completes
  rw [ends_peek_bind]
  split
  · next kind =>
      obtain ⟨rest, tokens⟩ := State.rest_eq_cons kind (by decide)
      have signCompletes := completes.plain (by rw [kind]; decide) (by rw [kind]; decide) tokens
      rw [ends_advance_bind, tokens, List.tail_cons]
      refine (balances _).bind (fun _ _ abandons => abandons.of_completes signCompletes) ?_
      exact fun _ _ exponent => checkHeight_balances (signCompletes.trans exponent)
  · exact completes

end Operand

/-- A level is closed again however the reading inside of it ends. -/
theorem nested_balances {inside : Reader α} (balances : Balances inside) :
    Balances (nested context inside) := by
  intro start
  by_cases full : context.limits.depth ≤ start.nesting
  · have run : nested context inside start = .error (.tooDeep context.limits.depth) start := by
      simp only [nested, full, if_true]
    rw [ends_iff_of_eq_error run]
    exact State.Passed.refl.abandons
  · let opened : State :=
      { start with
        nesting := start.nesting + 1
        deepest := max start.deepest (start.nesting + 1) }
    have ends := balances opened
    simp only [Ends, nested, full, if_false] at ends ⊢
    cases run : inside opened with
    | ok value final =>
        rw [run] at ends
        obtain ⟨used, nonempty, passed⟩ := ends
        exact ⟨used, nonempty, passed.rest, passed.groups, congrArg Nat.pred passed.nesting,
          passed.leaves⟩
    | error error final =>
        rw [run] at ends
        obtain ⟨used, refused, positions, given⟩ := ends
        exact ⟨used, refused, positions, given.rest, given.groups,
          congrArg Nat.pred given.nesting, given.leaves, given.single, given.refusal⟩

theorem signed_balances (context : Context) (calls : Nat) :
    Balances (signed context calls) := by
  induction calls with
  | zero => exact fun start => State.Passed.refl.abandons
  | succ calls induction =>
      refine nested_balances fun start => ?_
      rw [ends_peek_bind]
      split
      · next kind =>
          obtain ⟨rest, tokens⟩ := State.rest_eq_cons kind (by simp)
          have sign : start.Passed { start with rest := rest } _ _ :=
            .plain (by simp [kind]) (by simp [kind]) tokens
          rw [ends_advance_bind, tokens, List.tail_cons]
          refine (induction _).bind (fun _ _ abandons => abandons.behind sign) ?_
          exact fun _ _ operand => checkHeight_balances (sign.completes operand)
      · next kind =>
          obtain ⟨rest, tokens⟩ := State.rest_eq_cons kind (by simp)
          have sign : start.Passed { start with rest := rest } _ _ :=
            .plain (by simp [kind]) (by simp [kind]) tokens
          rw [ends_advance_bind, tokens, List.tail_cons]
          exact (induction _).mono (fun _ _ operand => sign.completes operand)
            fun _ _ abandons => abandons.behind sign
      · exact power_balances induction start

end Reader

end Reckoner
