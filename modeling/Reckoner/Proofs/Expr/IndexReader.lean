import Reckoner.Proofs.Expr.Balance

/-!
# Reading with an index

The same reading once more, with an index into the whole list of tokens instead of the tokens that
are left.  The list is taken as it is: end tokens can stand anywhere in it, and what follows the
first one is still there.  Nothing makes sure beforehand that the index stays inside of the list,
that a group is open where one is closed, or that the reading ever ends; it stops with a fault where
one of this goes wrong.  Nested calls and the rounds of the loops are counted by `work`, which
nothing but the fault depends on.

`IndexReader.Follows` says that such a reader does the same as the one of the same name that works
on the tokens that are left.  It needs as much work as there are tokens in front of the first end
token, and one more.
-/

namespace Reckoner

namespace IndexReader

/-- What stays the same while a list of tokens is read. -/
structure Source where
  tokens : List Token
  limits : Limits

structure State where
  /-- The place in the list of the token that comes next. -/
  current : Nat
  /-- The positions of the open parentheses, the innermost first. -/
  groups : List Nat
  /-- How many levels of signed operands are open. -/
  nesting : Nat
deriving Repr, DecidableEq

inductive Fault where
  /-- The index is not inside of the list. -/
  | outside
  /-- A group is closed where none is open. -/
  | unopened
  /-- The work has been used up. -/
  | unfinished
deriving Repr, DecidableEq

/-- What can stop a reader. -/
inductive Stop where
  | refused (error : ParseError)
  | broken (fault : Fault)
deriving Repr, DecidableEq

end IndexReader

abbrev IndexReader (α : Type) : Type :=
  EStateM IndexReader.Stop IndexReader.State α

namespace IndexReader

variable {α : Type}

def refuse (error : ParseError) : IndexReader α :=
  throw (.refused error)

def fail (fault : Fault) : IndexReader α :=
  throw (.broken fault)

def peek (source : Source) : IndexReader Token := do
  match source.tokens[(← get).current]? with
  | none => fail .outside
  | some token => pure token

/-- Reads the next token; an end token stays in place. -/
def advance (source : Source) : IndexReader Token := do
  let token ← peek source
  if token.kind = .finish then pure token
  else
    modify fun state => { state with current := state.current + 1 }
    pure token

def readOperator (source : Source) (symbols : List Char) : IndexReader (Option Operator) := do
  match (← peek source).kind with
  | .operator symbol =>
    if symbols.contains symbol then
      let _ ← advance source
      pure (Operator.ofSymbol? symbol)
    else pure none
  | _ => pure none

def checkHeight (source : Source) (node : Measured) : IndexReader Measured :=
  if source.limits.height < node.height then refuse (.tooDeep source.limits.height)
  else pure node

def join (source : Source) (operator : Operator) (left right : Measured) : IndexReader Measured :=
  checkHeight source
    ⟨.binary operator left.expression right.expression, 1 + max left.height right.height⟩

def chainFrom (source : Source) (symbols : List Char) (operand : IndexReader Measured) :
    (work : Nat) → Measured → IndexReader Measured
  | 0, _ => fail .unfinished
  | work + 1, left => do
    match ← readOperator source symbols with
    | none => pure left
    | some operator =>
      let right ← operand
      let joined ← join source operator left right
      chainFrom source symbols operand work joined

def chain (source : Source) (symbols : List Char) (work : Nat) (operand : IndexReader Measured) :
    IndexReader Measured := do
  let first ← operand
  chainFrom source symbols operand work first

def product (source : Source) (work : Nat) (signed : IndexReader Measured) :
    IndexReader Measured :=
  chain source ['*', '/', '%'] work signed

def sum (source : Source) (work : Nat) (signed : IndexReader Measured) : IndexReader Measured :=
  chain source ['+', '-'] work (product source work signed)

def openGroup (position : Nat) : IndexReader Unit :=
  modify fun state => { state with groups := position :: state.groups }

def closeGroup (source : Source) : IndexReader Unit := do
  match (← get).groups with
  | [] => fail .unopened
  | position :: groups =>
    let token ← peek source
    match token.kind with
    | .rightParenthesis =>
      let _ ← advance source
      modify fun state => { state with groups := groups }
    | .finish => refuse (.unmatchedParenthesis position)
    | _ => refuse (Reader.unexpected token)

def argumentsFrom (source : Source) (argument : IndexReader Measured) :
    (work : Nat) → List Measured → IndexReader (List Measured)
  | 0, _ => fail .unfinished
  | work + 1, read => do
    let next ← argument
    if (← peek source).kind = .comma then
      let _ ← advance source
      argumentsFrom source argument work (next :: read)
    else
      closeGroup source
      pure (next :: read).reverse

def arguments (source : Source) (work : Nat) (signed : IndexReader Measured) :
    IndexReader (List Measured) := do
  if (← peek source).kind = .rightParenthesis then
    closeGroup source
    pure []
  else argumentsFrom source (sum source work signed) work []

def primary (source : Source) (work : Nat) (signed : IndexReader Measured) :
    IndexReader Measured := do
  let token ← advance source
  match token.kind with
  | .number value => pure ⟨.literal value, 1⟩
  | .identifier name =>
    if (← peek source).kind = .leftParenthesis then
      let opening ← advance source
      openGroup opening.position
      let nodes ← arguments source work signed
      checkHeight source
        ⟨.call name (nodes.map Measured.expression), 1 + Reader.greatestHeight nodes⟩
    else pure ⟨.constant name, 1⟩
  | .leftParenthesis =>
    openGroup token.position
    let next ← peek source
    if next.kind = .rightParenthesis then refuse (.emptyExpression next.position)
    else
      let inner ← sum source work signed
      closeGroup source
      pure inner
  | .rightParenthesis =>
    if (← get).groups.isEmpty then refuse (.unmatchedParenthesis token.position)
    else refuse (.emptyExpression token.position)
  | .finish =>
    match (← get).groups with
    | [] => refuse (Reader.unexpected token)
    | position :: _ => refuse (.unmatchedParenthesis position)
  | _ => refuse (Reader.unexpected token)

def power (source : Source) (work : Nat) (signed : IndexReader Measured) :
    IndexReader Measured := do
  let base ← primary source work signed
  if (← peek source).kind = .operator '^' then
    let _ ← advance source
    let exponent ← signed
    join source .power base exponent
  else pure base

def nested (source : Source) (reader : IndexReader α) : IndexReader α := fun state =>
  if source.limits.depth ≤ state.nesting then
    .error (.refused (.tooDeep source.limits.depth)) state
  else
    match reader { state with nesting := state.nesting + 1 } with
    | .ok value state => .ok value { state with nesting := state.nesting - 1 }
    | .error stop state => .error stop { state with nesting := state.nesting - 1 }

def signed (source : Source) : (work : Nat) → IndexReader Measured
  | 0 => fail .unfinished
  | work + 1 => nested source do
    match (← peek source).kind with
    | .operator '-' =>
      let _ ← advance source
      let operand ← signed source work
      checkHeight source ⟨.negate operand.expression, operand.height + 1⟩
    | .operator '+' =>
      let _ ← advance source
      signed source work
    | _ => power source work (signed source work)

def whole (source : Source) (work : Nat) : IndexReader Expr := do
  let first ← peek source
  if first.kind = .finish then refuse (.emptyExpression first.position)
  else
    let node ← sum source work (signed source work)
    let token ← peek source
    match token.kind with
    | .finish => pure node.expression
    | .rightParenthesis => refuse (.unmatchedParenthesis token.position)
    | _ => refuse (Reader.unexpected token)

/-! ## The same reading -/

/-- The tokens in front of the first end token, which ends the input. -/
structure Source.Shows (source : Source) (context : Reader.Context) (front : List Token) :
    Prop where
  limits : context.limits = source.limits
  tokens : ∃ behind, source.tokens = front ++ ⟨.finish, context.finish⟩ :: behind
  inside : ∀ token ∈ front, token.kind ≠ .finish

/-- The index stands in front of the tokens that are left. -/
structure State.Views (front : List Token) (state : State) (other : Reader.State) : Prop where
  inside : state.current ≤ front.length
  rest : other.rest = front.drop state.current
  groups : other.groups = state.groups
  nesting : other.nesting = state.nesting

/-- Both runs end in the same way, and none with a fault. -/
inductive Matches (front : List Token) : EStateM.Result Stop State α →
    EStateM.Result ParseError Reader.State α → Prop where
  | ok {value : α} {final : State} {other : Reader.State} :
      final.Views front other → Matches front (.ok value final) (.ok value other)
  | error {error : ParseError} {final : State} {other : Reader.State} :
      final.Views front other → Matches front (.error (.refused error) final) (.error error other)

variable {β : Type} {source : Source} {context : Reader.Context} {front : List Token}
  {state : State} {other : Reader.State} {work calls : Nat}

theorem Matches.bind {reader : IndexReader α} {partner : Reader α} {next : α → IndexReader β}
    {partnerNext : α → Reader β} (first : Matches front (reader state) (partner other))
    (behind : ∀ value final partnerFinal, partner other = .ok value partnerFinal →
      final.Views front partnerFinal →
      Matches front (next value final) (partnerNext value partnerFinal)) :
    Matches front ((reader >>= next) state) ((partner >>= partnerNext) other) := by
  change Matches front (EStateM.bind reader next state) (EStateM.bind partner partnerNext other)
  unfold EStateM.bind
  cases run : reader state with
  | ok value final =>
      cases partnerRun : partner other with
      | ok partnerValue partnerFinal =>
          rw [run, partnerRun] at first
          cases first with
          | ok views => exact behind value final partnerFinal partnerRun views
      | error error partnerFinal =>
          rw [run, partnerRun] at first
          cases first
  | error stop final =>
      cases partnerRun : partner other with
      | ok partnerValue partnerFinal =>
          rw [run, partnerRun] at first
          cases first
      | error error partnerFinal =>
          rw [run, partnerRun] at first
          cases first with
          | error views => exact .error views

theorem Matches.ite {condition : Prop} [Decidable condition] {reader otherwise : IndexReader α}
    {partner partnerOtherwise : Reader α}
    (holds : condition → Matches front (reader state) (partner other))
    (fails : ¬ condition → Matches front (otherwise state) (partnerOtherwise other)) :
    Matches front ((if condition then reader else otherwise) state)
      ((if condition then partner else partnerOtherwise) other) := by
  split
  · next holding => exact holds holding
  · next failing => exact fails failing

theorem Matches.get {next : State → IndexReader β} {partnerNext : Reader.State → Reader β}
    (behind : Matches front (next state state) (partnerNext other other)) :
    Matches front ((get >>= next) state) ((get >>= partnerNext) other) :=
  behind

/-! ## The readers that touch the state -/

section Tokens

variable (shows : source.Shows context front) (views : state.Views front other)
include shows views

/-- The token that comes next is in the list. -/
theorem getElem?_current : source.tokens[state.current]? = some (other.next context) := by
  obtain ⟨behind, tokens⟩ := shows.tokens
  rw [tokens, Reader.State.next, views.rest, List.headD_eq_head?_getD, List.head?_drop]
  rcases Nat.lt_or_eq_of_le views.inside with before | atEnd
  · rw [List.getElem?_append_left before, List.getElem?_eq_getElem before, Option.getD_some]
  · rw [atEnd, List.getElem?_append_right (Nat.le_refl _), Nat.sub_self,
      List.getElem?_eq_none (Nat.le_refl _)]
    rfl

theorem peek_run : peek source state = .ok (other.next context) state := by
  change (match source.tokens[state.current]? with
    | none => fail .outside
    | some token => pure token : IndexReader Token) state = _
  rw [getElem?_current shows views]
  rfl

/-- Where tokens are left none of them is an end token. -/
theorem rest_eq_nil_iff : other.rest = [] ↔ (other.next context).kind = .finish := by
  constructor
  · intro empty
    rw [Reader.State.next, empty]
    rfl
  · intro finish
    cases tokens : other.rest with
    | nil => rfl
    | cons token rest =>
        rw [Reader.State.next, tokens, List.headD_cons] at finish
        have member : token ∈ front := by
          apply List.mem_of_mem_drop
          rw [← views.rest, tokens]
          exact List.mem_cons_self
        exact absurd finish (shows.inside token member)

theorem advance_run :
    ∃ final, advance source state = .ok (other.next context) final ∧
      final.Views front { other with rest := other.rest.tail } := by
  have run : advance source state = (if (other.next context).kind = .finish
      then pure (other.next context)
      else do
        modify fun state => { state with current := state.current + 1 }
        pure (other.next context) : IndexReader Token) state := by
    change EStateM.bind (peek source) _ state = _
    unfold EStateM.bind
    rw [peek_run shows views]
  by_cases finish : (other.next context).kind = .finish
  · have empty := (rest_eq_nil_iff shows views).mpr finish
    rw [if_pos finish] at run
    refine ⟨state, run, views.inside, ?_, views.groups, views.nesting⟩
    rw [← views.rest, empty, List.tail_nil]
  · rw [if_neg finish] at run
    refine ⟨_, run, ?_, ?_, views.groups, views.nesting⟩
    · have some := mt (rest_eq_nil_iff shows views).mp finish
      rw [views.rest, List.drop_eq_nil_iff] at some
      exact Nat.not_le.mp some
    · rw [views.rest, List.tail_drop]

theorem Matches.peek {next : Token → IndexReader β} {partnerNext : Token → Reader β}
    (behind : ∀ kind position, other.next context = ⟨kind, position⟩ →
      Matches front (next ⟨kind, position⟩ state) (partnerNext ⟨kind, position⟩ other)) :
    Matches front ((peek source >>= next) state) ((Reader.peek context >>= partnerNext) other) := by
  change Matches front (EStateM.bind (IndexReader.peek source) next state)
    (EStateM.bind (Reader.peek context) partnerNext other)
  unfold EStateM.bind
  rw [peek_run shows views, Reader.peek_run]
  exact behind _ _ rfl

theorem Matches.advance {next : Token → IndexReader β} {partnerNext : Token → Reader β}
    (behind : ∀ kind position final, other.next context = ⟨kind, position⟩ →
      final.Views front { other with rest := other.rest.tail } →
      Matches front (next ⟨kind, position⟩ final)
        (partnerNext ⟨kind, position⟩ { other with rest := other.rest.tail })) :
    Matches front ((advance source >>= next) state)
      ((Reader.advance context >>= partnerNext) other) := by
  obtain ⟨final, run, finalViews⟩ := advance_run shows views
  change Matches front (EStateM.bind (IndexReader.advance source) next state)
    (EStateM.bind (Reader.advance context) partnerNext other)
  unfold EStateM.bind
  rw [run, Reader.advance_run]
  exact behind _ _ final rfl finalViews

theorem readOperator_matches (symbols : List Char) :
    Matches front (readOperator source symbols state)
      (Reader.readOperator context symbols other) := by
  refine Matches.peek shows views fun kind position next => ?_
  cases kind with
  | operator symbol =>
      refine .ite (fun _ => ?_) (fun _ => .ok views)
      exact Matches.advance shows views fun _ _ _ _ behind => .ok behind
  | _ => exact .ok views

/-- A group that is open can be closed. -/
theorem closeGroup_matches (opened : other.groups ≠ []) :
    Matches front (closeGroup source state) (Reader.closeGroup context other) := by
  obtain ⟨position, groups, same⟩ := List.exists_cons_of_ne_nil opened
  have stateGroups : state.groups = position :: groups := views.groups.symm.trans same
  change Matches front ((match state.groups with
    | [] => fail .unopened
    | position :: groups => _ : IndexReader Unit) state) _
  rw [stateGroups]
  refine Matches.peek shows views fun kind place next => ?_
  cases kind with
  | rightParenthesis =>
      refine Matches.advance shows views fun _ _ final _ behind => ?_
      refine .ok ⟨behind.inside, behind.rest, ?_, behind.nesting⟩
      change other.groups.tail = groups
      rw [same, List.tail_cons]
  | finish =>
      change Matches front (.error (.refused (.unmatchedParenthesis position)) state)
        (.error (.unmatchedParenthesis (other.groups.headD place)) other)
      rw [same]
      exact .error views
  | _ => exact .error views

omit shows in
theorem openGroup_matches (position : Nat) :
    Matches front (openGroup position state) (Reader.openGroup position other) :=
  .ok ⟨views.inside, views.rest, congrArg (position :: ·) views.groups, views.nesting⟩

theorem checkHeight_matches (node : Measured) :
    Matches front (checkHeight source node state) (Reader.checkHeight context node other) := by
  unfold checkHeight Reader.checkHeight
  rw [shows.limits]
  exact .ite (fun _ => .error views) (fun _ => .ok views)

end Tokens

/-! ## The forms of an expression -/

/-- The two states are the same, the work is enough for the tokens that are left, and the calls are
enough for the levels that may be opened. -/
structure Ready (context : Reader.Context) (front : List Token) (work calls : Nat) (state : State)
    (other : Reader.State) : Prop where
  views : state.Views front other
  tokens_lt : other.rest.length < work
  depth_le : context.limits.depth ≤ other.nesting + calls

/-- Wherever it is ready, the reader does the same as its partner. -/
def Follows (context : Reader.Context) (front : List Token) (work calls : Nat)
    (reader : IndexReader Measured) (partner : Reader Measured) : Prop :=
  ∀ state other, Ready context front work calls state other →
    Matches front (reader state) (partner other)

theorem Ready.mono {more : Nat} (ready : Ready context front work calls state other)
    (enough : work ≤ more) : Ready context front more calls state other :=
  ⟨ready.views, Nat.lt_of_lt_of_le ready.tokens_lt enough, ready.depth_le⟩

/-- Behind some tokens less work is enough. -/
theorem Ready.behind {final : State} {partnerFinal : Reader.State}
    (ready : Ready context front (work + 1) calls state other)
    (views : final.Views front partnerFinal)
    (shorter : partnerFinal.rest.length < other.rest.length)
    (nesting : partnerFinal.nesting = other.nesting) :
    Ready context front work calls final partnerFinal := by
  refine ⟨views, ?_, nesting ▸ ready.depth_le⟩
  have enough := ready.tokens_lt
  omega

theorem Ready.completed {final : State} {partnerFinal : Reader.State}
    (ready : Ready context front work calls state other)
    (views : final.Views front partnerFinal) (completes : other.Completes partnerFinal) :
    Ready context front work calls final partnerFinal :=
  (ready.mono (Nat.le_succ work)).behind views completes.length_lt completes.nesting_eq

theorem tail_length_lt {kind : TokenKind} {position : Nat}
    (next : other.next context = ⟨kind, position⟩) (inside : kind ≠ .finish) :
    other.rest.tail.length < other.rest.length := by
  obtain ⟨rest, tokens⟩ := Reader.State.rest_eq_cons (congrArg Token.kind next) inside
  rw [tokens]
  exact Nat.lt_succ_self _

section Forms

variable (shows : source.Shows context front)
include shows

section Operand

variable {operand : IndexReader Measured} {partner : Reader Measured}
  (follows : Follows context front work calls operand partner) (balances : partner.Balances)
include follows balances

/-- The rounds of the loop never use up the work, since each of them reads an operator. -/
theorem chainFrom_matches (symbols : List Char) {rounds steps : Nat} (left : Measured)
    (ready : Ready context front work calls state other) (enough : other.rest.length < rounds)
    (bounded : other.rest.length ≤ steps) :
    Matches front (chainFrom source symbols operand rounds left state)
      (Reader.chainFrom context symbols partner steps left other) := by
  induction rounds generalizing steps left state other with
  | zero => omega
  | succ rounds induction =>
      cases steps with
      | zero =>
          -- no token is left, so that neither reader finds an operator
          have empty := List.eq_nil_of_length_eq_zero (Nat.le_zero.mp bounded)
          have finish := (rest_eq_nil_iff shows ready.views).mp empty
          have none : Reader.readOperator context symbols other = .ok none other :=
            Reader.readOperator_none (by simp [finish])
          have matched := readOperator_matches shows ready.views symbols
          rw [none] at matched
          change Matches front (EStateM.bind (readOperator source symbols) _ state) (.ok left other)
          unfold EStateM.bind
          cases run : readOperator source symbols state with
          | ok read final =>
              rw [run] at matched
              cases matched with
              | ok views => exact .ok views
          | error stop final =>
              rw [run] at matched
              cases matched
      | succ steps =>
          refine Matches.bind (readOperator_matches shows ready.views symbols) ?_
          intro read middle otherMiddle otherRun views
          cases read with
          | none => exact .ok views
          | some operator =>
              have ends := (Reader.ends_iff_of_eq_ok otherRun).mp (Reader.readOperator_ends symbols)
              have read : other.Completes otherMiddle := ends.resolve_left (by simp)
              refine Matches.bind (follows _ _ (ready.completed views read)) ?_
              intro right behind otherBehind rightRun behindViews
              have rightRead := read.trans (balances.completes rightRun)
              refine Matches.bind (checkHeight_matches shows behindViews _) ?_
              intro joined final otherFinal joinRun finalViews
              have joinedRead : other.Completes otherFinal :=
                (Reader.ends_iff_of_eq_ok joinRun).mp (Reader.checkHeight_balances rightRead)
              have shorter := joinedRead.length_lt
              exact induction joined (ready.completed finalViews joinedRead) (by omega) (by omega)

theorem chain_follows (symbols : List Char) :
    Follows context front work calls (chain source symbols work operand)
      (Reader.chain context symbols partner) := by
  intro state other ready
  refine Matches.bind (follows state other ready) ?_
  intro first middle otherMiddle firstRun views
  have firstRead := balances.completes firstRun
  have shorter := firstRead.length_lt
  have enough := ready.tokens_lt
  exact chainFrom_matches shows follows balances symbols first (ready.completed views firstRead)
    (by omega) (Nat.le_refl _)

end Operand

section Signed

variable {signed : IndexReader Measured} {partner : Reader Measured}
  (follows : Follows context front work calls signed partner) (balances : partner.Balances)
include follows balances

theorem product_follows :
    Follows context front work calls (product source work signed)
      (Reader.product context partner) :=
  chain_follows shows follows balances _

theorem sum_follows :
    Follows context front work calls (sum source work signed) (Reader.sum context partner) :=
  chain_follows shows (product_follows shows follows balances)
    (Reader.product_balances balances) _

/-- Every round reads a comma at least. -/
theorem argumentsFrom_matches {rounds steps : Nat} (read : List Measured)
    (ready : Ready context front work calls state other) (enough : other.rest.length < rounds)
    (bounded : other.rest.length < steps) (opened : other.groups ≠ []) :
    Matches front (argumentsFrom source (sum source work signed) rounds read state)
      (Reader.argumentsFrom context partner steps read other) := by
  induction rounds generalizing steps read state other with
  | zero => omega
  | succ rounds induction =>
      cases steps with
      | zero => omega
      | succ steps =>
          refine Matches.bind (sum_follows shows follows balances state other ready) ?_
          intro argument middle otherMiddle argumentRun views
          have argumentRead := (Reader.sum_balances balances).completes argumentRun
          have middleOpened : otherMiddle.groups ≠ [] := argumentRead.groups_eq ▸ opened
          refine Matches.peek shows views fun kind position next => ?_
          refine .ite (fun comma => ?_) fun _ => ?_
          · have commaNext : (otherMiddle.next context).kind = .comma := by
              rw [next]
              exact comma
            obtain ⟨rest, tokens⟩ := Reader.State.rest_eq_cons commaNext (by decide)
            refine Matches.advance shows views fun _ _ final _ finalViews => ?_
            rw [tokens, List.tail_cons] at finalViews ⊢
            have commaRead := argumentRead.plain (by rw [next, comma]; decide)
              (by rw [next, comma]; decide) tokens
            have shorter := commaRead.length_lt
            dsimp only at shorter
            exact induction (argument :: read) (ready.completed finalViews commaRead)
              (by dsimp only; omega) (by dsimp only; omega) middleOpened
          · refine Matches.bind (closeGroup_matches shows views middleOpened) ?_
            exact fun _ _ _ _ finalViews => .ok finalViews

theorem arguments_matches (ready : Ready context front work calls state other)
    (opened : other.groups ≠ []) :
    Matches front (arguments source work signed state)
      (Reader.arguments context partner other) := by
  refine Matches.peek shows ready.views fun _ _ _ => .ite (fun _ => ?_) fun _ => ?_
  · refine Matches.bind (closeGroup_matches shows ready.views opened) ?_
    exact fun _ _ _ _ finalViews => .ok finalViews
  · exact argumentsFrom_matches shows follows balances [] ready ready.tokens_lt
      (Nat.lt_succ_self _) opened

theorem primary_follows :
    Follows context front (work + 1) calls (primary source work signed)
      (Reader.primary context partner) := by
  intro state other ready
  refine Matches.advance shows ready.views fun kind position middle next views => ?_
  cases kind with
  | number value => exact .ok views
  | identifier name =>
      have named := tail_length_lt next (by simp)
      refine Matches.peek shows views fun _ _ _ => .ite (fun _ => ?_) fun _ => .ok views
      refine Matches.advance shows views fun _ opening final _ finalViews => ?_
      refine Matches.bind (openGroup_matches finalViews opening) ?_
      intro _ inside otherInside opened insideViews
      cases opened
      have shorter : other.rest.tail.tail.length < other.rest.length :=
        Nat.lt_of_le_of_lt (by simp) named
      refine Matches.bind (arguments_matches shows follows balances
        (ready.behind insideViews shorter rfl) (List.cons_ne_nil _ _)) ?_
      exact fun _ _ _ _ behindViews => checkHeight_matches shows behindViews _
  | leftParenthesis =>
      have shorter := tail_length_lt next (by simp)
      refine Matches.bind (openGroup_matches views position) ?_
      intro _ inside otherInside opened insideViews
      cases opened
      refine Matches.peek shows insideViews fun _ _ _ => ?_
      refine .ite (fun _ => .error insideViews) fun _ => ?_
      refine Matches.bind (sum_follows shows follows balances _ _
        (ready.behind insideViews shorter rfl)) ?_
      intro inner behind otherBehind innerRun behindViews
      have innerRead := (Reader.sum_balances balances).completes innerRun
      refine Matches.bind (closeGroup_matches shows behindViews ?_) ?_
      · rw [innerRead.groups_eq]
        exact List.cons_ne_nil _ _
      · exact fun _ _ _ _ finalViews => .ok finalViews
  | rightParenthesis =>
      generalize ({ other with rest := other.rest.tail } : Reader.State) = moved at views ⊢
      refine Matches.get ?_
      rw [views.groups]
      exact .ite (fun _ => .error views) fun _ => .error views
  | finish =>
      generalize ({ other with rest := other.rest.tail } : Reader.State) = moved at views ⊢
      refine Matches.get ?_
      rw [views.groups]
      cases middle.groups with
      | nil => exact .error views
      | cons position groups => exact .error views
  | _ => exact .error views

theorem power_follows :
    Follows context front (work + 1) calls (power source work signed)
      (Reader.power context partner) := by
  intro state other ready
  refine Matches.bind (primary_follows shows follows balances state other ready) ?_
  intro base middle otherMiddle baseRun views
  have baseRead := (Reader.primary_balances balances).completes baseRun
  refine Matches.peek shows views fun kind position next => .ite (fun sign => ?_) fun _ => .ok views
  refine Matches.advance shows views fun _ _ final _ finalViews => ?_
  have shorter : otherMiddle.rest.tail.length < other.rest.length :=
    Nat.lt_of_le_of_lt (by simp) baseRead.length_lt
  refine Matches.bind (follows _ _ (ready.behind finalViews shorter baseRead.nesting_eq)) ?_
  exact fun _ _ _ _ behindViews => checkHeight_matches shows behindViews _

/-- What stands inside of one open level. -/
theorem level_follows :
    Follows context front (work + 1) calls
      (do
        match (← peek source).kind with
        | .operator '-' =>
          let _ ← advance source
          let operand ← signed
          checkHeight source ⟨.negate operand.expression, operand.height + 1⟩
        | .operator '+' =>
          let _ ← advance source
          signed
        | _ => power source work signed)
      (do
        match (← Reader.peek context).kind with
        | .operator '-' =>
          let _ ← Reader.advance context
          let operand ← partner
          Reader.checkHeight context ⟨.negate operand.expression, operand.height + 1⟩
        | .operator '+' =>
          let _ ← Reader.advance context
          partner
        | _ => Reader.power context partner) := by
  intro state other ready
  refine Matches.peek shows ready.views fun kind position next => ?_
  dsimp only
  split
  · refine Matches.advance shows ready.views fun _ _ final _ views => ?_
    have shorter := tail_length_lt next (by simp)
    refine Matches.bind (follows _ _ (ready.behind views shorter rfl)) ?_
    exact fun _ _ _ _ behindViews => checkHeight_matches shows behindViews _
  · refine Matches.advance shows ready.views fun _ _ final _ views => ?_
    exact follows _ _ (ready.behind views (tail_length_lt next (by simp)) rfl)
  · exact power_follows shows follows balances state other ready

end Signed

/-- A level is opened and closed alike. -/
theorem nested_matches {reader : IndexReader α} {partner : Reader α}
    (views : state.Views front other)
    (inside : other.nesting < context.limits.depth →
      Matches front (reader { state with nesting := state.nesting + 1 })
        (partner { other with
          nesting := other.nesting + 1
          deepest := max other.deepest (other.nesting + 1) })) :
    Matches front (nested source reader state) (Reader.nested context partner other) := by
  unfold nested Reader.nested
  rw [← shows.limits, ← views.nesting]
  split
  · exact .error views
  · next room =>
      have matched := inside (Nat.not_le.mp room)
      rw [← views.nesting] at matched
      revert matched
      generalize reader { state with nesting := other.nesting + 1 } = result
      dsimp only
      generalize partner { other with
        nesting := other.nesting + 1
        deepest := max other.deepest (other.nesting + 1) } = partnerResult
      intro matched
      cases matched with
      | ok finalViews =>
          exact .ok ⟨finalViews.inside, finalViews.rest, finalViews.groups,
            congrArg Nat.pred finalViews.nesting⟩
      | error finalViews =>
          exact .error ⟨finalViews.inside, finalViews.rest, finalViews.groups,
            congrArg Nat.pred finalViews.nesting⟩

/-- Nothing calls itself without having read a token, so as many calls as there are tokens are
enough. -/
theorem signed_follows (work calls : Nat) :
    Follows context front work calls (signed source work) (Reader.signed context calls) := by
  induction work generalizing calls with
  | zero => exact fun state other ready => absurd ready.tokens_lt (Nat.not_lt_zero _)
  | succ work induction =>
      intro state other ready
      cases calls with
      | zero =>
          -- every level that may be open is open already
          have full := ready.depth_le
          rw [Nat.add_zero, shows.limits, ready.views.nesting] at full
          unfold signed nested Reader.signed
          rw [if_pos full, shows.limits]
          exact .error ready.views
      | succ calls =>
          refine nested_matches shows ready.views fun room => ?_
          refine level_follows shows (induction calls) (Reader.signed_balances context calls) _ _ ?_
          refine ⟨⟨ready.views.inside, ready.views.rest, ready.views.groups,
            congrArg Nat.succ ready.views.nesting⟩, ready.tokens_lt, ?_⟩
          have enough := ready.depth_le
          dsimp only
          omega

theorem whole_matches (views : state.Views front other) (enough : other.rest.length < work) :
    Matches front (whole source work state) (Reader.whole context other) := by
  refine Matches.peek shows views fun kind position next => .ite (fun _ => .error views) fun _ => ?_
  have ready : Ready context front work context.limits.depth state other :=
    ⟨views, enough, Nat.le_add_left _ _⟩
  refine Matches.bind (sum_follows shows (signed_follows shows work context.limits.depth)
    (Reader.signed_balances context _) state other ready) ?_
  intro node final otherFinal _ finalViews
  refine Matches.peek shows finalViews fun kind position next => ?_
  cases kind with
  | finish => exact .ok finalViews
  | _ => exact .error finalViews

end Forms

end IndexReader

end Reckoner
