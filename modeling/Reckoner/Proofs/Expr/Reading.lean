import Reckoner.Proofs.Expr.Grammar

/-!
# What the readers read

Every reader of an expression has one specification, `Reader.Reads`: where it succeeds, the tokens
it has taken form a derivation of the tree that it returns, and where it fails, it fails for a
reason.  The specifications are parametric in the reader of signed operands, like the readers
themselves; `signed_reads` ties the knot by induction on the calls that may be nested.

The specifications also follow the count of open levels.  A reader leaves the count as it found
it, on success and on failure, and the greatest count ever reached stays within the limit.
-/

namespace Reckoner

namespace Expr

/-- The height that is held against the limit, which that of a leaf is not. -/
def checkedHeight : Expr → Nat
  | .literal _ | .constant _ => 0
  | tree => tree.height

theorem checkedHeight_le (tree : Expr) : tree.checkedHeight ≤ tree.height := by
  cases tree with
  | literal value => exact Nat.zero_le _
  | constant name => exact Nat.zero_le _
  | negate | binary | call => exact Nat.le_refl _

theorem checkedHeight_operands {operator : Operator} {left right : Expr} {limit : Nat}
    (low : (Expr.binary operator left right).checkedHeight ≤ limit) :
    left.checkedHeight ≤ limit ∧ right.checkedHeight ≤ limit := by
  have leftLe := left.checkedHeight_le
  have rightLe := right.checkedHeight_le
  simp only [checkedHeight, height] at low
  constructor <;> omega

theorem height_le (tree : Expr) : tree.height ≤ max 1 tree.checkedHeight := by
  cases tree with
  | literal value => exact Nat.le_max_left _ _
  | constant name => exact Nat.le_max_left _ _
  | negate | binary | call => exact Nat.le_max_right _ _

end Expr

namespace Reader

variable {α β : Type} {context : Context} {start middle final : State}
  {succeeds : α → State → Prop} {fails : ParseError → State → Prop}

/-- From the given state the reader succeeds, or fails, only in the ways that are allowed for. -/
def Ends (reader : Reader α) (start : State) (succeeds : α → State → Prop)
    (fails : ParseError → State → Prop) : Prop :=
  match reader start with
  | .ok value final => succeeds value final
  | .error error final => fails error final

theorem ends_iff_of_eq_ok {reader : Reader α} {value : α}
    (run : reader start = .ok value final) :
    Ends reader start succeeds fails ↔ succeeds value final := by
  simp only [Ends, run]

theorem ends_iff_of_eq_error {reader : Reader α} {error : ParseError}
    (run : reader start = .error error final) :
    Ends reader start succeeds fails ↔ fails error final := by
  simp only [Ends, run]

theorem Ends.mono {reader : Reader α} {succeeds' : α → State → Prop}
    {fails' : ParseError → State → Prop} (ends : Ends reader start succeeds fails)
    (success : ∀ value final, succeeds value final → succeeds' value final)
    (failure : ∀ error final, fails error final → fails' error final) :
    Ends reader start succeeds' fails' := by
  unfold Ends at ends ⊢
  cases run : reader start with
  | ok value final =>
      rw [run] at ends
      exact success value final ends
  | error error final =>
      rw [run] at ends
      exact failure error final ends

/-- A sequence of readers ends as its second reader does, or fails as its first does. -/
theorem ends_bind {first : Reader α} {next : α → Reader β} {succeeds : β → State → Prop} :
    Ends (first >>= next) start succeeds fails ↔
      Ends first start (fun value middle => Ends (next value) middle succeeds fails) fails := by
  change (match EStateM.bind first next start with
    | .ok value final => succeeds value final
    | .error error final => fails error final) ↔ _
  unfold Ends EStateM.bind
  cases first start <;> rfl

/-- The second reader may rely on what the first has made sure of. -/
theorem Ends.bind {first : Reader α} {next : α → Reader β} {between : α → State → Prop}
    {succeeds : β → State → Prop} {fails' : ParseError → State → Prop}
    (ends : Ends first start between fails')
    (failure : ∀ error final, fails' error final → fails error final)
    (continues : ∀ value middle, between value middle →
      Ends (next value) middle succeeds fails) :
    Ends (first >>= next) start succeeds fails :=
  ends_bind.mpr (ends.mono continues failure)

@[simp] theorem ends_get_bind {next : State → Reader α} :
    Ends (get >>= next) start succeeds fails ↔ Ends (next start) start succeeds fails :=
  Iff.rfl

def State.next (context : Context) (state : State) : Token :=
  state.rest.headD ⟨.finish, context.finish⟩

theorem State.rest_eq_cons {kind : TokenKind} (next : (start.next context).kind = kind)
    (inside : kind ≠ .finish) :
    ∃ rest, start.rest = start.next context :: rest := by
  unfold State.next at next ⊢
  cases tokens : start.rest with
  | nil =>
      rw [tokens] at next
      exact absurd next.symm inside
  | cons token rest => exact ⟨rest, rfl⟩

theorem peek_run : peek context start = .ok (start.next context) start := by
  obtain ⟨rest, groups, nesting, deepest⟩ := start
  cases rest <;> rfl

theorem advance_run :
    advance context start = .ok (start.next context) { start with rest := start.rest.tail } := by
  obtain ⟨rest, groups, nesting, deepest⟩ := start
  cases rest <;> rfl

theorem openGroup_run {position : Nat} :
    openGroup position start = .ok () { start with groups := position :: start.groups } :=
  rfl

@[simp] theorem ends_peek_bind {next : Token → Reader α} :
    Ends (peek context >>= next) start succeeds fails ↔
      Ends (next (start.next context)) start succeeds fails := by
  rw [ends_bind, ends_iff_of_eq_ok peek_run]

@[simp] theorem ends_advance_bind {next : Token → Reader α} :
    Ends (advance context >>= next) start succeeds fails ↔
      Ends (next (start.next context)) { start with rest := start.rest.tail } succeeds fails := by
  rw [ends_bind, ends_iff_of_eq_ok advance_run]

@[simp] theorem ends_openGroup_bind {position : Nat} {next : Unit → Reader α} :
    Ends (openGroup position >>= next) start succeeds fails ↔
      Ends (next ()) { start with groups := position :: start.groups } succeeds fails :=
  Iff.rfl

/-- The open levels are among the most that have been open, and those are within the limit. -/
structure State.Within (context : Context) (state : State) : Prop where
  nesting_le : state.nesting ≤ state.deepest
  deepest_le : state.deepest ≤ context.limits.depth

theorem State.Within.moved {rest : List Token} {groups : List Nat}
    (within : start.Within context) :
    ({ start with rest := rest, groups := groups } : State).Within context :=
  ⟨within.nesting_le, within.deepest_le⟩

theorem deepest_trans (deepest nesting levels laterLevels : Nat) :
    max (max deepest (nesting + levels)) (nesting + laterLevels) =
      max deepest (nesting + max levels laterLevels) := by
  omega

/-- Between two states tokens of the given kinds have been read, with as many levels as given open
at once on top of those that are open at both ends. -/
structure State.Took (start final : State) (kinds : List TokenKind) (levels : Nat) : Prop where
  rest : ∃ tokens : List Token,
    tokens.map Token.kind = kinds ∧ start.rest = tokens ++ final.rest
  nesting : final.nesting = start.nesting
  deepest : final.deepest = max start.deepest (start.nesting + levels)

namespace State

variable {kinds laterKinds : List TokenKind} {levels laterLevels : Nat}

theorem Took.refl (within : start.Within context) : start.Took start [] 0 := by
  refine ⟨⟨[], rfl, rfl⟩, rfl, ?_⟩
  have nesting := within.nesting_le
  omega

theorem Took.trans (first : start.Took middle kinds levels)
    (later : middle.Took final laterKinds laterLevels) :
    start.Took final (kinds ++ laterKinds) (max levels laterLevels) := by
  obtain ⟨tokens, kindsEq, startEq⟩ := first.rest
  obtain ⟨laterTokens, laterEq, middleEq⟩ := later.rest
  refine ⟨⟨tokens ++ laterTokens, ?_, ?_⟩, later.nesting.trans first.nesting, ?_⟩
  · simp only [List.map_append, kindsEq, laterEq]
  · rw [startEq, middleEq, List.append_assoc]
  · rw [later.deepest, first.deepest, first.nesting, deepest_trans]

/-- Reading one token; the positions of the open parentheses may change. -/
theorem Took.token (within : start.Within context) (groups : List Nat) {token : Token}
    {rest : List Token} (tokens : start.rest = token :: rest) :
    start.Took { start with rest := rest, groups := groups } [token.kind] 0 := by
  refine ⟨⟨[token], rfl, tokens⟩, rfl, ?_⟩
  have nesting := within.nesting_le
  simp only
  omega

theorem Took.length (took : start.Took final kinds levels) :
    start.rest.length = kinds.length + final.rest.length := by
  obtain ⟨tokens, kindsEq, startEq⟩ := took.rest
  rw [startEq, List.length_append, ← kindsEq, List.length_map]

end State

/-- A form of the grammar: which kinds of tokens make which tree, with how many levels. -/
abbrev Form : Type :=
  List TokenKind → Expr → Nat → Prop

/-- A successful reading of a form. -/
structure Read (context : Context) (form : Form) (start : State) (node : Measured)
    (final : State) : Prop where
  within : final.Within context
  groups : final.groups = start.groups
  height_eq : node.height = node.expression.height
  height_le : node.expression.checkedHeight ≤ context.limits.height
  derivation : ∃ kinds levels, form kinds node.expression levels ∧
    start.Took final kinds levels

/-- A reading that has failed.  A limit can be the reason only where more tokens are left than
the limit allows for; `calls` is the number of calls that the reader may nest, and `slack` the
number of tokens that it takes before it opens the next level. -/
structure Failed (context : Context) (calls slack : Nat) (start : State) (error : ParseError)
    (final : State) : Prop where
  within : final.Within context
  nesting : final.nesting = start.nesting
  cause : ∀ limit, error = .tooDeep limit →
    context.limits.depth + slack ≤ start.nesting + start.rest.length ∨
      calls + slack ≤ start.rest.length ∨
      context.limits.height < start.rest.length

/-- The reader reads the form. -/
def Reads (context : Context) (calls slack : Nat) (form : Form) (reader : Reader Measured) :
    Prop :=
  ∀ start : State, start.Within context →
    Ends reader start (Read context form start) (Failed context calls slack start)

variable {calls slack : Nat} {form : Form} {reader : Reader Measured}

theorem Failed.of_ne_tooDeep {error : ParseError} (within : final.Within context)
    (nesting : final.nesting = start.nesting) (other : ∀ limit, error ≠ .tooDeep limit) :
    Failed context calls slack start error final :=
  ⟨within, nesting, fun limit same => absurd same (other limit)⟩

/-- A failure behind tokens that have been read is a failure of the whole. -/
theorem Failed.behind {laterSlack : Nat} {error : ParseError} {kinds : List TokenKind}
    {levels : Nat} (failed : Failed context calls laterSlack middle error final)
    (took : start.Took middle kinds levels) (enough : slack ≤ laterSlack + kinds.length) :
    Failed context calls slack start error final := by
  refine ⟨failed.within, failed.nesting.trans took.nesting, ?_⟩
  intro limit same
  have length := took.length
  have nesting := took.nesting
  have cause := failed.cause limit same
  omega

/-- A node for all tokens that have been read is returned unless it is too high. -/
theorem checkHeight_ends {node : Measured} {kinds : List TokenKind} {levels : Nat}
    (bounded : node.expression.height ≤ kinds.length) (within : middle.Within context)
    (groups : middle.groups = start.groups) (height : node.height = node.expression.height)
    (derivation : form kinds node.expression levels) (took : start.Took middle kinds levels) :
    Ends (checkHeight context node) middle (Read context form start)
      (Failed context calls slack start) := by
  unfold checkHeight
  split
  · next high =>
      refine ⟨within, took.nesting, ?_⟩
      intro limit _
      have length := took.length
      omega
  · next low =>
      have checked := node.expression.checkedHeight_le
      exact ⟨within, groups, height, by omega, kinds, levels, derivation, took⟩

theorem closeGroup_ends :
    Ends (closeGroup context) start
      (fun _ final => ∃ position rest,
        start.rest = ⟨.rightParenthesis, position⟩ :: rest ∧
          final = { start with rest := rest, groups := start.groups.tail })
      (fun error final => final = start ∧ ∀ limit, error ≠ .tooDeep limit) := by
  unfold closeGroup
  rw [ends_peek_bind]
  split
  · next kind =>
      obtain ⟨rest, tokens⟩ := State.rest_eq_cons kind (by decide)
      rw [ends_advance_bind]
      refine ⟨(start.next context).position, rest, ?_, ?_⟩
      · rw [← kind]
        exact tokens
      · rw [tokens, List.tail_cons]
  · rw [ends_get_bind]
    exact ⟨rfl, by simp⟩
  · exact ⟨rfl, by simp [unexpected]⟩

/-- The operator that comes next is read if it is among the symbols. -/
theorem readOperator_some {symbols : List Char} {operator : Operator} {position : Nat}
    {rest : List Token} (member : operator.symbol ∈ symbols)
    (tokens : start.rest = ⟨.operator operator.symbol, position⟩ :: rest) :
    readOperator context symbols start = .ok (some operator) { start with rest := rest } := by
  obtain ⟨_, groups, nesting, deepest⟩ := start
  subst tokens
  have contained : symbols.contains operator.symbol = true := by simpa using member
  simp only [readOperator, bind, EStateM.bind, peek_run, advance_run, State.next,
    List.headD_cons, contained, if_true, List.tail_cons, pure, EStateM.pure,
    Operator.ofSymbol?_symbol]

/-- Nothing is read if none of the symbols comes next. -/
theorem readOperator_none {symbols : List Char}
    (other : ∀ symbol ∈ symbols, (start.next context).kind ≠ .operator symbol) :
    readOperator context symbols start = .ok none start := by
  simp only [readOperator, bind, EStateM.bind, peek_run]
  cases kind : (start.next context).kind with
  | operator symbol =>
      have absent : symbols.contains symbol = false := by
        simpa using fun member => other symbol member kind
      simp only [absent]
      rfl
  | _ => rfl

/-- The chains are the operands joined from left to right by the operators that the symbols
write. -/
structure Chains (symbols : List Char) (operands chains : Form) : Prop where
  written : ∀ symbol ∈ symbols, ∃ operator : Operator, symbol = operator.symbol
  single : ∀ {kinds tree levels}, operands kinds tree levels → chains kinds tree levels
  join : ∀ {leftKinds rightKinds left right leftLevels rightLevels} (operator : Operator),
    operator.symbol ∈ symbols → chains leftKinds left leftLevels →
    operands rightKinds right rightLevels →
    chains (leftKinds ++ .operator operator.symbol :: rightKinds)
      (.binary operator left right) (max leftLevels rightLevels)
  bounded : ∀ {kinds tree levels}, chains kinds tree levels → tree.height ≤ kinds.length

/-- The invariant of the loop is that what has been read so far is itself a chain. -/
theorem chainFrom_ends {symbols : List Char} {operands chains : Form}
    {operand : Reader Measured} (joined : Chains symbols operands chains)
    (reads : Reads context calls 0 operands operand) (steps : Nat) {left : Measured}
    (sofar : Read context chains start left middle) :
    Ends (chainFrom context symbols operand steps left) middle (Read context chains start)
      (Failed context calls 0 start) := by
  induction steps generalizing left middle with
  | zero => exact sofar
  | succ steps induction =>
      obtain ⟨leftKinds, leftLevels, leftForm, leftTook⟩ := sofar.derivation
      unfold chainFrom
      by_cases follows : ∃ symbol ∈ symbols, (middle.next context).kind = .operator symbol
      · obtain ⟨symbol, member, kind⟩ := follows
        obtain ⟨operator, rfl⟩ := joined.written symbol member
        obtain ⟨rest, tokens⟩ := State.rest_eq_cons kind (by simp)
        have operatorTook := State.Took.token sofar.within middle.groups tokens
        rw [kind] at operatorTook
        have run : readOperator context symbols middle =
            .ok (some operator) { middle with rest := rest } :=
          readOperator_some member (by rw [tokens, ← kind])
        rw [ends_bind, ends_iff_of_eq_ok run]
        refine (reads _ sofar.within.moved).bind ?_ ?_
        · intro error final failed
          exact failed.behind (leftTook.trans operatorTook) (by omega)
        · intro right afterRight rightRead
          obtain ⟨rightKinds, rightLevels, rightForm, rightTook⟩ := rightRead.derivation
          have form := joined.join operator member leftForm rightForm
          have took : start.Took afterRight
              (leftKinds ++ .operator operator.symbol :: rightKinds)
              (max leftLevels rightLevels) := by
            simpa using leftTook.trans (operatorTook.trans rightTook)
          refine (checkHeight_ends (joined.bounded form) rightRead.within
            (rightRead.groups.trans sofar.groups) ?_ form took).bind (fun _ _ failed => failed) ?_
          · simp only [Expr.height, sofar.height_eq, rightRead.height_eq]
          · intro node afterJoin nodeRead
            exact induction nodeRead
      · have other : ∀ symbol ∈ symbols, (middle.next context).kind ≠ .operator symbol := by
          intro symbol member kind
          exact follows ⟨symbol, member, kind⟩
        rw [ends_bind, ends_iff_of_eq_ok (readOperator_none other)]
        exact sofar

theorem chain_reads {symbols : List Char} {operands chains : Form} {operand : Reader Measured}
    (joined : Chains symbols operands chains) (reads : Reads context calls 0 operands operand) :
    Reads context calls 0 chains (chain context symbols operand) := by
  intro start within
  unfold chain
  refine (reads start within).bind (fun _ _ failed => failed) ?_
  intro first middle firstRead
  obtain ⟨kinds, levels, form, took⟩ := firstRead.derivation
  rw [ends_get_bind]
  exact chainFrom_ends joined reads _ ⟨firstRead.within, firstRead.groups, firstRead.height_eq,
    firstRead.height_le, kinds, levels, joined.single form, took⟩

theorem symbol_mem_sum {operator : Operator} :
    operator.symbol ∈ ['+', '-'] ↔ operator.level = .sum := by
  cases operator <;> decide

theorem symbol_mem_product {operator : Operator} :
    operator.symbol ∈ ['*', '/', '%'] ↔ operator.level = .product := by
  cases operator <;> decide

theorem products : Chains ['*', '/', '%'] Grammar.Signed Grammar.Product where
  written := by
    simp only [List.mem_cons, List.not_mem_nil, or_false]
    rintro symbol (rfl | rfl | rfl)
    · exact ⟨.multiply, rfl⟩
    · exact ⟨.divide, rfl⟩
    · exact ⟨.remainder, rfl⟩
  single := .signed
  join := fun operator member => .join operator (symbol_mem_product.mp member)
  bounded := fun product => product.bounds.2

theorem sums : Chains ['+', '-'] Grammar.Product Grammar.Sum where
  written := by
    simp only [List.mem_cons, List.not_mem_nil, or_false]
    rintro symbol (rfl | rfl)
    · exact ⟨.add, rfl⟩
    · exact ⟨.subtract, rfl⟩
  single := .product
  join := fun operator member => .join operator (symbol_mem_sum.mp member)
  bounded := fun sum => sum.bounds.2

section Operand

variable {signed : Reader Measured}

theorem sum_reads (reads : Reads context calls 0 Grammar.Signed signed) :
    Reads context calls 0 Grammar.Sum (sum context signed) :=
  chain_reads sums (chain_reads products reads)

/-- A successful reading of the arguments of a call and of the parenthesis behind them. -/
structure ReadAll (context : Context) (form : List TokenKind → List Expr → Nat → Prop)
    (start : State) (nodes : List Measured) (final : State) : Prop where
  within : final.Within context
  groups : final.groups = start.groups.tail
  height_eq : ∀ node ∈ nodes, node.height = node.expression.height
  derivation : ∃ kinds levels, form kinds (nodes.map Measured.expression) levels ∧
    start.Took final (kinds ++ [.rightParenthesis]) levels

/-- Closing the group ends a series of arguments with what has been read last. -/
theorem closeGroup_took {kinds : List TokenKind} {levels : Nat} (within : middle.Within context)
    (took : start.Took middle kinds levels) :
    Ends (closeGroup context) middle
      (fun _ final => final.Within context ∧ final.groups = middle.groups.tail ∧
        start.Took final (kinds ++ [.rightParenthesis]) levels)
      (Failed context calls slack start) := by
  refine closeGroup_ends.mono ?_ ?_
  · rintro _ final ⟨position, rest, tokens, rfl⟩
    refine ⟨within.moved, rfl, ?_⟩
    simpa using took.trans (.token within _ tokens)
  · rintro error final ⟨rfl, other⟩
    exact .of_ne_tooDeep within took.nesting other

/-- Every step reads a comma at least, so the steps never run out. -/
theorem argumentsFrom_ends (reads : Reads context calls 0 Grammar.Signed signed) (steps : Nat)
    (earlier : List Measured) (within : start.Within context)
    (enough : start.rest.length < steps) :
    Ends (argumentsFrom context signed steps earlier) start
      (fun nodes final => ∃ later, nodes = earlier.reverse ++ later ∧
        ReadAll context Grammar.Series start later final)
      (Failed context calls 0 start) := by
  induction steps generalizing start earlier with
  | zero => omega
  | succ steps induction =>
      unfold argumentsFrom
      refine (sum_reads reads start within).bind (fun _ _ failed => failed) ?_
      intro first middle firstRead
      obtain ⟨kinds, levels, form, took⟩ := firstRead.derivation
      rw [ends_peek_bind]
      split
      · next kind =>
          obtain ⟨rest, tokens⟩ := State.rest_eq_cons kind (by decide)
          have commaTook := took.trans (.token firstRead.within middle.groups tokens)
          rw [ends_advance_bind, tokens, List.tail_cons]
          rw [kind] at commaTook
          have length := commaTook.length
          simp only [List.length_append, List.length_singleton] at length
          have fewer : rest.length < steps := by omega
          have others := induction (first :: earlier)
            (firstRead.within.moved : State.Within context { middle with rest := rest }) fewer
          refine others.mono ?_ ?_
          · rintro nodes final ⟨later, rfl, laterRead⟩
            obtain ⟨laterKinds, laterLevels, laterForm, laterTook⟩ := laterRead.derivation
            refine ⟨first :: later, by simp, laterRead.within,
              laterRead.groups.trans (congrArg List.tail firstRead.groups), ?_,
              kinds ++ .comma :: laterKinds, max levels laterLevels, .next form laterForm, ?_⟩
            · simpa using ⟨firstRead.height_eq, laterRead.height_eq⟩
            · simpa using commaTook.trans laterTook
          · intro error final failed
            exact failed.behind commaTook (by omega)
      · refine (closeGroup_took firstRead.within took).bind (fun _ _ failed => failed) ?_
        rintro _ final ⟨finalWithin, groups, finalTook⟩
        refine ⟨[first], by simp, finalWithin,
          groups.trans (congrArg List.tail firstRead.groups), ?_,
          kinds, levels, .last form, finalTook⟩
        simpa using firstRead.height_eq

theorem arguments_ends (reads : Reads context calls 0 Grammar.Signed signed)
    (within : start.Within context) :
    Ends (arguments context signed) start (ReadAll context Grammar.Arguments start)
      (Failed context calls 0 start) := by
  unfold arguments
  rw [ends_peek_bind]
  split
  · refine (closeGroup_took within (.refl within)).bind (fun _ _ failed => failed) ?_
    rintro _ final ⟨finalWithin, groups, took⟩
    exact ⟨finalWithin, groups, by simp, [], 0, .none, took⟩
  · rw [ends_get_bind]
    refine (argumentsFrom_ends reads _ [] within (Nat.lt_succ_self _)).mono ?_
      (fun _ _ failed => failed)
    rintro nodes final ⟨later, rfl, laterRead⟩
    obtain ⟨kinds, levels, form, took⟩ := laterRead.derivation
    exact ⟨laterRead.within, laterRead.groups, laterRead.height_eq, kinds, levels, .some form, took⟩

theorem greatestHeight_eq {nodes : List Measured}
    (heights : ∀ node ∈ nodes, node.height = node.expression.height) :
    greatestHeight nodes = Expr.greatestHeight (nodes.map Measured.expression) := by
  induction nodes with
  | nil => rfl
  | cons node nodes induction =>
      have rest := induction fun other member => heights other (List.mem_cons_of_mem _ member)
      have head := heights node List.mem_cons_self
      simp only [greatestHeight, List.foldr_cons, List.map_cons, Expr.greatestHeight] at rest ⊢
      rw [rest, head]

/-- A leaf is read as one token. -/
theorem leaf_ends {node : Measured} {token : Token} {rest : List Token}
    (within : start.Within context) (tokens : start.rest = token :: rest)
    (height : node.height = node.expression.height) (leaf : node.expression.checkedHeight = 0)
    (derivation : form [token.kind] node.expression 0) :
    Ends (pure node) { start with rest := rest } (Read context form start)
      (Failed context calls slack start) :=
  ⟨within.moved, rfl, height, by omega, _, _, derivation, .token within _ tokens⟩

theorem call_ends (reads : Reads context calls 0 Grammar.Signed signed) {name opening : Token}
    {function : String} {inside : List Token} (within : start.Within context)
    (nameKind : name.kind = .identifier function) (openingKind : opening.kind = .leftParenthesis)
    (tokens : start.rest = name :: opening :: inside) :
    Ends (do
      let nodes ← arguments context signed
      checkHeight context
        ⟨.call function (nodes.map Measured.expression), 1 + greatestHeight nodes⟩)
      { start with rest := inside, groups := opening.position :: start.groups }
      (Read context Grammar.Primary start) (Failed context calls 1 start) := by
  have nameTook : start.Took { start with rest := opening :: inside } [.identifier function] 0 :=
    nameKind ▸ .token within _ tokens
  have openingTook := nameTook.trans
    (.token within.moved (opening.position :: start.groups) rfl)
  rw [openingKind] at openingTook
  refine (arguments_ends reads within.moved).bind ?_ ?_
  · intro error final failed
    exact failed.behind openingTook (by simp)
  · intro nodes final argumentsRead
    obtain ⟨kinds, levels, form, took⟩ := argumentsRead.derivation
    have derivation := Grammar.Primary.call function form
    refine checkHeight_ends derivation.bounds.2 argumentsRead.within argumentsRead.groups ?_
      derivation ?_
    · simp only [Expr.height, greatestHeight_eq argumentsRead.height_eq]
    · simpa using openingTook.trans took

theorem group_ends (reads : Reads context calls 0 Grammar.Signed signed) {opening : Token}
    {inside : List Token} (within : start.Within context)
    (kind : opening.kind = .leftParenthesis) (tokens : start.rest = opening :: inside) :
    Ends (do
      let inner ← sum context signed
      closeGroup context
      pure inner)
      { start with rest := inside, groups := opening.position :: start.groups }
      (Read context Grammar.Primary start) (Failed context calls 1 start) := by
  have openingTook := State.Took.token within (opening.position :: start.groups) tokens
  rw [kind] at openingTook
  refine (sum_reads reads _ within.moved).bind ?_ ?_
  · intro error final failed
    exact failed.behind openingTook (by simp)
  · intro node middle nodeRead
    obtain ⟨kinds, levels, form, took⟩ := nodeRead.derivation
    refine (closeGroup_took nodeRead.within (openingTook.trans took)).bind
      (fun _ _ failed => failed) ?_
    rintro _ final ⟨finalWithin, groups, finalTook⟩
    refine ⟨finalWithin, ?_, nodeRead.height_eq, nodeRead.height_le, _, _, .group form, ?_⟩
    · rw [groups, nodeRead.groups, List.tail_cons]
    · simpa using finalTook

theorem primary_reads (reads : Reads context calls 0 Grammar.Signed signed) :
    Reads context calls 1 Grammar.Primary (primary context signed) := by
  intro start within
  unfold primary
  rw [ends_advance_bind]
  split
  · next value kind =>
      obtain ⟨rest, tokens⟩ := State.rest_eq_cons kind (by simp)
      rw [tokens, List.tail_cons]
      exact leaf_ends within tokens rfl rfl (kind ▸ .number value)
  · next name kind =>
      obtain ⟨rest, tokens⟩ := State.rest_eq_cons kind (by simp)
      rw [tokens, List.tail_cons, ends_peek_bind]
      split
      · next openingKind =>
          obtain ⟨inside, insideTokens⟩ := State.rest_eq_cons openingKind (by decide)
          rw [ends_advance_bind, ends_openGroup_bind]
          dsimp only at insideTokens ⊢
          rw [insideTokens] at tokens ⊢
          exact call_ends reads within kind openingKind tokens
      · exact leaf_ends within tokens rfl rfl (kind ▸ .constant name)
  · next kind =>
      obtain ⟨rest, tokens⟩ := State.rest_eq_cons kind (by decide)
      rw [tokens, List.tail_cons, ends_openGroup_bind, ends_peek_bind]
      split
      · exact .of_ne_tooDeep within.moved rfl (by simp)
      · exact group_ends reads within kind tokens
  · rw [ends_get_bind]
    split
    · exact .of_ne_tooDeep within.moved rfl (by simp)
    · exact .of_ne_tooDeep within.moved rfl (by simp)
  · rw [ends_get_bind]
    split
    · exact .of_ne_tooDeep within.moved rfl (by simp [unexpected])
    · exact .of_ne_tooDeep within.moved rfl (by simp)
  · exact .of_ne_tooDeep within.moved rfl (by simp [unexpected])

theorem power_reads (reads : Reads context calls 0 Grammar.Signed signed) :
    Reads context calls 1 Grammar.Power (power context signed) := by
  intro start within
  unfold power
  refine (primary_reads reads start within).bind (fun _ _ failed => failed) ?_
  intro base middle baseRead
  obtain ⟨baseKinds, baseLevels, baseForm, baseTook⟩ := baseRead.derivation
  rw [ends_peek_bind]
  split
  · next kind =>
      obtain ⟨rest, tokens⟩ := State.rest_eq_cons kind (by decide)
      have signTook := baseTook.trans (.token baseRead.within middle.groups tokens)
      rw [kind] at signTook
      rw [ends_advance_bind, tokens, List.tail_cons]
      refine (reads _ baseRead.within.moved).bind ?_ ?_
      · intro error final failed
        exact failed.behind signTook (by simp)
      · intro exponent final exponentRead
        obtain ⟨kinds, levels, form, took⟩ := exponentRead.derivation
        have derivation := Grammar.Power.raise baseForm form
        refine checkHeight_ends derivation.bounds.2 exponentRead.within
          (exponentRead.groups.trans baseRead.groups) ?_ derivation ?_
        · simp only [Expr.height, baseRead.height_eq, exponentRead.height_eq]
        · simpa using signTook.trans took
  · exact ⟨baseRead.within, baseRead.groups, baseRead.height_eq, baseRead.height_le, baseKinds,
      baseLevels, .primary baseForm, baseTook⟩

/-- What stands inside one open level. -/
theorem level_reads (reads : Reads context calls 0 Grammar.Signed signed) :
    Reads context calls 1 (fun kinds tree levels => Grammar.Signed kinds tree (levels + 1))
      (do
        match (← peek context).kind with
        | .operator '-' =>
          let _ ← advance context
          let operand ← signed
          checkHeight context ⟨.negate operand.expression, operand.height + 1⟩
        | .operator '+' =>
          let _ ← advance context
          signed
        | _ => power context signed) := by
  intro start within
  rw [ends_peek_bind]
  split
  · next kind =>
      obtain ⟨rest, tokens⟩ := State.rest_eq_cons kind (by simp)
      have signTook := State.Took.token within start.groups tokens
      rw [kind] at signTook
      rw [ends_advance_bind, tokens, List.tail_cons]
      refine (reads _ within.moved).bind ?_ ?_
      · intro error final failed
        exact failed.behind signTook (by simp)
      · intro operand final operandRead
        obtain ⟨kinds, levels, form, took⟩ := operandRead.derivation
        have derivation := Grammar.Signed.minus form
        have took : start.Took final (.operator '-' :: kinds) levels := by
          simpa using signTook.trans took
        refine checkHeight_ends derivation.bounds.2 operandRead.within operandRead.groups ?_
          derivation took
        simp only [Expr.height, operandRead.height_eq]
  · next kind =>
      obtain ⟨rest, tokens⟩ := State.rest_eq_cons kind (by simp)
      have signTook := State.Took.token within start.groups tokens
      rw [kind] at signTook
      rw [ends_advance_bind, tokens, List.tail_cons]
      refine (reads _ within.moved).mono ?_ ?_
      · intro operand final operandRead
        obtain ⟨kinds, levels, form, took⟩ := operandRead.derivation
        refine ⟨operandRead.within, operandRead.groups, operandRead.height_eq,
          operandRead.height_le, .operator '+' :: kinds, levels, .plus form, ?_⟩
        simpa using signTook.trans took
      · intro error final failed
        exact failed.behind signTook (by simp)
  · refine (power_reads reads start within).mono ?_ (fun _ _ failed => failed)
    intro node final nodeRead
    obtain ⟨kinds, levels, form, took⟩ := nodeRead.derivation
    exact ⟨nodeRead.within, nodeRead.groups, nodeRead.height_eq, nodeRead.height_le, kinds,
      levels, .power form, took⟩

end Operand

/-- A level is closed again however the reading inside it ends. -/
theorem nested_reads {inside : Reader Measured}
    (reads : Reads context calls 1
      (fun kinds tree levels => Grammar.Signed kinds tree (levels + 1)) inside) :
    Reads context (calls + 1) 0 Grammar.Signed (nested context inside) := by
  intro start within
  have nestingLe := within.nesting_le
  have deepestLe := within.deepest_le
  by_cases full : context.limits.depth ≤ start.nesting
  · have run : nested context inside start = .error (.tooDeep context.limits.depth) start := by
      simp only [nested, full, if_true]
    simp only [Ends, run]
    exact ⟨within, rfl, fun _ _ => .inl (Nat.le_add_right_of_le full)⟩
  · let opened : State :=
      { start with
        nesting := start.nesting + 1
        deepest := max start.deepest (start.nesting + 1) }
    have openedWithin : opened.Within context :=
      ⟨Nat.le_max_right _ _, Nat.max_le.mpr ⟨deepestLe, Nat.not_le.mp full⟩⟩
    have ends := reads opened openedWithin
    simp only [Ends, nested, full, if_false] at ends ⊢
    cases run : inside opened with
    | ok node final =>
        rw [run] at ends
        obtain ⟨kinds, levels, form, took⟩ := ends.derivation
        have nesting : final.nesting = start.nesting + 1 := took.nesting
        have deepest : final.deepest =
            max (max start.deepest (start.nesting + 1)) (start.nesting + 1 + levels) :=
          took.deepest
        refine ⟨⟨?_, ends.within.deepest_le⟩, ends.groups, ends.height_eq, ends.height_le,
          kinds, levels + 1, form, took.rest, ?_, ?_⟩
        · simp only
          omega
        · simp only [nesting, Nat.add_sub_cancel]
        · simp only [deepest]
          omega
    | error error final =>
        rw [run] at ends
        have nesting : final.nesting = start.nesting + 1 := ends.nesting
        have deepest := ends.within.nesting_le
        refine ⟨⟨?_, ends.within.deepest_le⟩, ?_, ?_⟩
        · simp only
          omega
        · simp only [nesting, Nat.add_sub_cancel]
        · intro limit same
          have cause := ends.cause limit same
          simp only [opened] at cause
          omega

theorem signed_reads (context : Context) (calls : Nat) :
    Reads context calls 0 Grammar.Signed (signed context calls) := by
  induction calls with
  | zero =>
      intro start within
      exact ⟨within, rfl, fun _ _ => .inr (.inl (Nat.zero_le _))⟩
  | succ calls induction => exact nested_reads (level_reads induction)

/-- A successful reading of a whole input. -/
structure ReadWhole (context : Context) (start : State) (tree : Expr) (final : State) : Prop where
  within : final.Within context
  groups : final.groups = start.groups
  nesting : final.nesting = start.nesting
  rest : final.rest = []
  height_le : tree.checkedHeight ≤ context.limits.height
  derivation : ∃ levels, Grammar.Sum (start.rest.map Token.kind) tree levels ∧
    final.deepest = max start.deepest (start.nesting + levels)

theorem whole_ends (within : start.Within context)
    (inside : ∀ token ∈ start.rest, token.kind ≠ .finish) :
    Ends (whole context) start (ReadWhole context start)
      (Failed context context.limits.depth 0 start) := by
  unfold whole
  rw [ends_peek_bind]
  split
  · exact .of_ne_tooDeep within rfl (by simp)
  · refine (sum_reads (signed_reads context context.limits.depth) start within).bind
      (fun _ _ failed => failed) ?_
    intro node final nodeRead
    obtain ⟨kinds, levels, form, took⟩ := nodeRead.derivation
    obtain ⟨tokens, kindsEq, startEq⟩ := took.rest
    rw [ends_peek_bind]
    split
    · next kind =>
        have rest : final.rest = [] := by
          cases left : final.rest with
          | nil => rfl
          | cons token rest =>
              rw [State.next, left, List.headD_cons] at kind
              exact absurd kind (inside token (by simp [startEq, left]))
        have all : start.rest.map Token.kind = kinds := by
          rw [startEq, rest, List.append_nil, kindsEq]
        exact ⟨nodeRead.within, nodeRead.groups, took.nesting, rest,
          nodeRead.height_le, levels, all ▸ form, took.deepest⟩
    · exact .of_ne_tooDeep nodeRead.within took.nesting (by simp)
    · exact .of_ne_tooDeep nodeRead.within took.nesting (by simp [unexpected])

end Reader

/-- The kinds of the tokens that count, which are those in front of the first end token. -/
def Token.significant (tokens : List Token) : List TokenKind :=
  (tokens.takeWhile (!·.isFinish)).map Token.kind

namespace Token

theorem isFinish_iff {token : Token} : token.isFinish = true ↔ token.kind = .finish := by
  unfold isFinish
  split <;> simp_all

section Inside

variable {front behind : List Token} {ending : Token}
  (inside : ∀ token ∈ front, token.kind ≠ .finish)
include inside

theorem not_isFinish_of_inside : ∀ token ∈ front, (!token.isFinish) = true := by
  intro token member
  simpa [← isFinish_iff] using inside token member

theorem takeWhile_of_inside : front.takeWhile (!·.isFinish) = front := by
  calc front.takeWhile (!·.isFinish) = (front ++ []).takeWhile (!·.isFinish) := by
        rw [List.append_nil]
    _ = front := by
        rw [List.takeWhile_append_of_pos (not_isFinish_of_inside inside)]
        exact List.append_nil front

theorem takeWhile_first_finish (finish : ending.kind = .finish) :
    (front ++ ending :: behind).takeWhile (!·.isFinish) = front := by
  rw [List.takeWhile_append_of_pos (not_isFinish_of_inside inside)]
  simp [isFinish_iff.mpr finish]

theorem finishPosition_first_finish (finish : ending.kind = .finish) :
    finishPosition (front ++ ending :: behind) = ending.position := by
  have none : front.find? isFinish = none := by simpa using not_isFinish_of_inside inside
  simp [finishPosition, List.find?_append, none, isFinish_iff.mpr finish]

end Inside

end Token

namespace Reader

theorem State.within_ofTokens (limits : Limits) (tokens : List Token) :
    (State.ofTokens tokens).Within (.ofTokens limits tokens) :=
  ⟨Nat.le_refl 0, Nat.zero_le _⟩

theorem State.inside_ofTokens {tokens : List Token} :
    ∀ token ∈ (State.ofTokens tokens).rest, token.kind ≠ .finish := by
  intro token member kind
  have kept : (tokens.takeWhile (!·.isFinish)).all (!·.isFinish) = true := List.all_takeWhile
  have inside := List.all_eq_true.mp kept token member
  simp [Token.isFinish_iff.mpr kind] at inside

theorem reading_ends (limits : Limits) (tokens : List Token) :
    Ends (whole (.ofTokens limits tokens)) (.ofTokens tokens)
      (ReadWhole (.ofTokens limits tokens) (.ofTokens tokens))
      (Failed (.ofTokens limits tokens) limits.depth 0 (.ofTokens tokens)) :=
  whole_ends (State.within_ofTokens limits tokens) State.inside_ofTokens

end Reader

namespace Expr

variable {limits : Limits} {tokens : List Token} {final : Reader.State}

theorem readWhole_of_reading {tree : Expr} (run : reading limits tokens = .ok tree final) :
    Reader.ReadWhole (.ofTokens limits tokens) (.ofTokens tokens) tree final :=
  (Reader.ends_iff_of_eq_ok run).mp (Reader.reading_ends limits tokens)

theorem failed_of_reading {error : ParseError} (run : reading limits tokens = .error error final) :
    Reader.Failed (.ofTokens limits tokens) limits.depth 0 (.ofTokens tokens) error final :=
  (Reader.ends_iff_of_eq_error run).mp (Reader.reading_ends limits tokens)

theorem ofTokens_eq_ok_iff_reading {tree : Expr} :
    ofTokens limits tokens = .ok tree ↔ ∃ final, reading limits tokens = .ok tree final := by
  unfold ofTokens
  constructor
  · intro success
    cases run : reading limits tokens with
    | ok value final =>
        rw [run] at success
        cases success
        exact ⟨final, rfl⟩
    | error error final =>
        rw [run] at success
        cases success
  · rintro ⟨final, run⟩
    rw [run]

theorem ofTokens_eq_error_iff_reading {error : ParseError} :
    ofTokens limits tokens = .error error ↔
      ∃ final, reading limits tokens = .error error final := by
  unfold ofTokens
  constructor
  · intro failure
    cases run : reading limits tokens with
    | ok value final =>
        rw [run] at failure
        cases failure
    | error reason final =>
        rw [run] at failure
        cases failure
        exact ⟨final, rfl⟩
  · rintro ⟨final, run⟩
    rw [run]

end Expr

end Reckoner
