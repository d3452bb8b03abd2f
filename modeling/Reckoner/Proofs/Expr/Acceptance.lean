import Reckoner.Proofs.Expr.Reading

/-!
# The reader accepts exactly the grammar

Where a form of the grammar is followed by a token that cannot go on with it, the reader of the
form takes its tokens and no others.  A chain of operands is followed up to the point where the
loop has the chain's tree in hand; from there the loop ends or reads one more operand.

With the specifications of the readers this makes reading and derivation equivalent:
`sum_of_ofTokens` and `ofTokens_of_sum` hold for all limits, and a list of tokens has at most one
derivation.
-/

namespace Reckoner

def Expr.measured (tree : Expr) : Measured where
  expression := tree
  height := tree.height

namespace Reader

variable {α β : Type} {context : Context} {start middle : State}

theorem bind_eq_of_eq_ok {first : Reader α} {next : α → Reader β} {value : α}
    (run : first start = .ok value middle) : (first >>= next) start = next value middle := by
  change EStateM.bind first next start = next value middle
  simp only [EStateM.bind, run]

theorem peek_cons {token : Token} {rest : List Token} {groups : List Nat} {nesting deepest : Nat} :
    peek context ⟨token :: rest, groups, nesting, deepest⟩ =
      .ok token ⟨token :: rest, groups, nesting, deepest⟩ :=
  rfl

theorem advance_cons {token : Token} {rest : List Token} {groups : List Nat}
    {nesting deepest : Nat} :
    advance context ⟨token :: rest, groups, nesting, deepest⟩ =
      .ok token ⟨rest, groups, nesting, deepest⟩ :=
  rfl

/-- Whether a token behind a form of the given level is read as a part of it.  A parenthesis turns
a name into a call. -/
def continues (level : Level) : TokenKind → Bool
  | .leftParenthesis => true
  | .operator symbol =>
    match Operator.ofSymbol? symbol with
    | some operator => level ≤ operator.level
    | none => false
  | _ => false

/-- None of the tokens that follow is read as a part of a form of the given level. -/
def Stops (level : Level) (rest : List Token) : Prop :=
  ∀ token ∈ rest.head?, continues level token.kind = false

theorem stops_nil {level : Level} : Stops level [] := by
  simp [Stops]

theorem stops_cons {level : Level} {token : Token} {rest : List Token} :
    Stops level (token :: rest) ↔ continues level token.kind = false := by
  simp [Stops]

@[simp] theorem continues_symbol {level : Level} {operator : Operator} :
    continues level (.operator operator.symbol) = decide (level ≤ operator.level) := by
  simp [continues, Operator.ofSymbol?_symbol]

/-- What does not go on with a form does not go on with a form that binds more tightly. -/
theorem Stops.mono {loose tight : Level} {rest : List Token} (order : loose ≤ tight)
    (stops : Stops loose rest) : Stops tight rest := by
  intro token member
  have stopped := stops token member
  revert stopped
  unfold continues
  split
  · exact id
  · split
    · simp only [decide_eq_false_iff_not]
      exact fun above below => above (Nat.le_trans order below)
    · exact id
  · exact id

theorem Stops.next_ne {level : Level} {rest : List Token} {groups : List Nat}
    {nesting deepest : Nat} {kind : TokenKind} (stops : Stops level rest)
    (goesOn : continues level kind = true) :
    (State.next context ⟨rest, groups, nesting, deepest⟩).kind ≠ kind := by
  rintro rfl
  cases rest with
  | nil => simp [State.next, continues] at goesOn
  | cons token rest =>
      rw [stops_cons] at stops
      rw [State.next, List.headD_cons, stops] at goesOn
      contradiction

/-- In front of the given rest the reader takes exactly these tokens and returns this tree, with
so many levels open at once. -/
def Accepts (context : Context) (reader : Reader Measured) (tokens : List Token) (tree : Expr)
    (levels : Nat) (rest : List Token) : Prop :=
  ∀ groups nesting deepest, nesting ≤ deepest → nesting + levels ≤ context.limits.depth →
    reader ⟨tokens ++ rest, groups, nesting, deepest⟩ =
      .ok tree.measured ⟨rest, groups, nesting, max deepest (nesting + levels)⟩

theorem checkHeight_measured {tree : Expr} (low : tree.height ≤ context.limits.height) :
    checkHeight context tree.measured start = .ok tree.measured start := by
  have notHigh : ¬ context.limits.height < tree.measured.height := Nat.not_lt.mpr low
  simp only [checkHeight, notHigh, if_false]
  rfl

theorem join_measured {operator : Operator} {left right : Expr}
    (low : (Expr.binary operator left right).height ≤ context.limits.height) :
    join context operator left.measured right.measured start =
      .ok (Expr.binary operator left right).measured start :=
  checkHeight_measured low

section Chain

variable {symbols : List Char} {operand : Reader Measured}
  {tokens leftTokens rightTokens rest : List Token} {tree left right : Expr}
  {levels leftLevels rightLevels : Nat}

/-- The chain comes to the point where the loop has read exactly these tokens and has this tree in
hand. -/
def Reaches (context : Context) (symbols : List Char) (operand : Reader Measured)
    (tokens : List Token) (tree : Expr) (levels : Nat) (rest : List Token) : Prop :=
  ∀ groups nesting deepest, nesting ≤ deepest → nesting + levels ≤ context.limits.depth →
    ∃ steps, rest.length ≤ steps ∧
      chain context symbols operand ⟨tokens ++ rest, groups, nesting, deepest⟩ =
        chainFrom context symbols operand steps tree.measured
          ⟨rest, groups, nesting, max deepest (nesting + levels)⟩

theorem Reaches.of_operand (accepts : Accepts context operand tokens tree levels rest) :
    Reaches context symbols operand tokens tree levels rest := by
  intro groups nesting deepest counted room
  refine ⟨rest.length, Nat.le_refl _, ?_⟩
  unfold chain
  rw [bind_eq_of_eq_ok (accepts groups nesting deepest counted room)]
  rfl

/-- The loop reads one more operator and one more operand. -/
theorem Reaches.joined {operator : Operator} {position : Nat}
    (member : operator.symbol ∈ symbols)
    (reaches : Reaches context symbols operand leftTokens left leftLevels
      (⟨.operator operator.symbol, position⟩ :: (rightTokens ++ rest)))
    (accepts : Accepts context operand rightTokens right rightLevels rest)
    (low : (Expr.binary operator left right).height ≤ context.limits.height) :
    Reaches context symbols operand
      (leftTokens ++ ⟨.operator operator.symbol, position⟩ :: rightTokens)
      (.binary operator left right) (max leftLevels rightLevels) rest := by
  intro groups nesting deepest counted room
  obtain ⟨steps, enough, run⟩ := reaches groups nesting deepest counted (by omega)
  cases steps with
  | zero => simp at enough
  | succ steps =>
      refine ⟨steps, ?_, ?_⟩
      · simp only [List.length_cons, List.length_append] at enough
        omega
      · have rightRun := accepts groups nesting (max deepest (nesting + leftLevels)) (by omega)
          (by omega)
        rw [deepest_trans] at rightRun
        rw [List.append_assoc, List.cons_append, run, chainFrom,
          bind_eq_of_eq_ok (readOperator_some member rfl)]
        dsimp only
        rw [bind_eq_of_eq_ok rightRun, bind_eq_of_eq_ok (join_measured low)]

/-- The loop ends where none of its operators follows. -/
theorem Reaches.accepts (level : Level)
    (reaches : Reaches context symbols operand tokens tree levels rest)
    (stops : Stops level rest) (goesOn : ∀ symbol ∈ symbols, continues level (.operator symbol)) :
    Accepts context (chain context symbols operand) tokens tree levels rest := by
  intro groups nesting deepest counted room
  obtain ⟨steps, _, run⟩ := reaches groups nesting deepest counted room
  rw [run]
  cases steps with
  | zero => rfl
  | succ steps =>
      rw [chainFrom, bind_eq_of_eq_ok
        (readOperator_none fun symbol member => stops.next_ne (goesOn symbol member))]
      rfl

end Chain

theorem continues_sum : ∀ symbol ∈ ['+', '-'], continues .sum (.operator symbol) := by
  intro symbol member
  obtain ⟨operator, rfl⟩ := sums.written symbol member
  rw [continues_symbol, symbol_mem_sum.mp member]
  rfl

theorem continues_product :
    ∀ symbol ∈ ['*', '/', '%'], continues .product (.operator symbol) := by
  intro symbol member
  obtain ⟨operator, rfl⟩ := products.written symbol member
  rw [continues_symbol, symbol_mem_product.mp member]
  rfl

section Operand

variable {signed : Reader Measured} {tokens : List Token} {tree : Expr} {levels : Nat}
  {rest : List Token} {position openingPosition closingPosition : Nat} {groups : List Nat}
  {nesting deepest : Nat}

theorem number_accepted {value : Float} :
    Accepts context (primary context signed) [⟨.number value, position⟩] (.literal value) 0
      rest := by
  intro groups nesting deepest counted _
  rw [Nat.add_zero, Nat.max_eq_left counted, primary, List.singleton_append,
    bind_eq_of_eq_ok advance_cons]
  rfl

theorem constant_accepted {name : String} (stops : Stops .atom rest) :
    Accepts context (primary context signed) [⟨.identifier name, position⟩] (.constant name) 0
      rest := by
  intro groups nesting deepest counted _
  rw [Nat.add_zero, Nat.max_eq_left counted, primary, List.singleton_append,
    bind_eq_of_eq_ok advance_cons]
  dsimp only
  rw [bind_eq_of_eq_ok peek_run, if_neg (stops.next_ne rfl)]
  rfl

theorem closeGroup_run :
    closeGroup context
        ⟨⟨.rightParenthesis, closingPosition⟩ :: rest, groups, nesting, deepest⟩ =
      .ok () ⟨rest, groups.tail, nesting, deepest⟩ :=
  rfl

theorem group_accepted {first : Token} {others : List Token} (head : tokens = first :: others)
    (opens : Grammar.opensSum first.kind = true)
    (accepts : Accepts context (sum context signed) tokens tree levels
      (⟨.rightParenthesis, closingPosition⟩ :: rest)) :
    Accepts context (primary context signed)
      (⟨.leftParenthesis, openingPosition⟩ :: (tokens ++ [⟨.rightParenthesis, closingPosition⟩]))
      tree levels rest := by
  intro groups nesting deepest counted room
  have sumRun := accepts (openingPosition :: groups) nesting deepest counted room
  have notEmpty : first.kind ≠ .rightParenthesis := by
    intro kind
    rw [kind] at opens
    contradiction
  rw [primary, List.cons_append, List.append_assoc, List.singleton_append,
    bind_eq_of_eq_ok advance_cons]
  dsimp only
  rw [bind_eq_of_eq_ok openGroup_run, bind_eq_of_eq_ok peek_run, if_neg,
    bind_eq_of_eq_ok sumRun, bind_eq_of_eq_ok closeGroup_run]
  · rfl
  · rw [head]
    exact notEmpty

theorem call_accepted {function : String} {trees : List Expr}
    (argumentsRun : ∀ groups nesting deepest, nesting ≤ deepest →
      nesting + levels ≤ context.limits.depth →
        arguments context signed
            ⟨tokens ++ ⟨.rightParenthesis, closingPosition⟩ :: rest, groups, nesting, deepest⟩ =
          .ok (trees.map Expr.measured)
            ⟨rest, groups.tail, nesting, max deepest (nesting + levels)⟩)
    (low : (Expr.call function trees).height ≤ context.limits.height) :
    Accepts context (primary context signed)
      (⟨.identifier function, position⟩ :: ⟨.leftParenthesis, openingPosition⟩ ::
        (tokens ++ [⟨.rightParenthesis, closingPosition⟩]))
      (.call function trees) levels rest := by
  intro groups nesting deepest counted room
  have run := argumentsRun (openingPosition :: groups) nesting deepest counted room
  have expressions : (trees.map Expr.measured).map Measured.expression = trees := by
    simp [Expr.measured, Function.comp_def]
  have heights : greatestHeight (trees.map Expr.measured) = Expr.greatestHeight trees := by
    rw [greatestHeight_eq (by simp [Expr.measured]), expressions]
  rw [primary, List.cons_append, List.cons_append, List.append_assoc, List.singleton_append,
    bind_eq_of_eq_ok advance_cons]
  dsimp only
  rw [bind_eq_of_eq_ok peek_cons, if_pos rfl, bind_eq_of_eq_ok advance_cons,
    bind_eq_of_eq_ok openGroup_run, bind_eq_of_eq_ok run, expressions, heights]
  exact checkHeight_measured low

theorem power_accepted_primary (stops : Stops .power rest)
    (accepts : Accepts context (primary context signed) tokens tree levels rest) :
    Accepts context (power context signed) tokens tree levels rest := by
  intro groups nesting deepest counted room
  rw [power, bind_eq_of_eq_ok (accepts groups nesting deepest counted room),
    bind_eq_of_eq_ok peek_run, if_neg (stops.next_ne (by decide))]
  rfl

theorem power_accepted_raise {baseTokens exponentTokens : List Token} {base exponent : Expr}
    {baseLevels exponentLevels : Nat}
    (baseAccepts : Accepts context (primary context signed) baseTokens base baseLevels
      (⟨.operator '^', position⟩ :: (exponentTokens ++ rest)))
    (exponentAccepts : Accepts context signed exponentTokens exponent exponentLevels rest)
    (low : (Expr.binary .power base exponent).height ≤ context.limits.height) :
    Accepts context (power context signed)
      (baseTokens ++ ⟨.operator '^', position⟩ :: exponentTokens) (.binary .power base exponent)
      (max baseLevels exponentLevels) rest := by
  intro groups nesting deepest counted room
  have baseRun := baseAccepts groups nesting deepest counted (by omega)
  have exponentRun := exponentAccepts groups nesting (max deepest (nesting + baseLevels))
    (by omega) (by omega)
  rw [deepest_trans] at exponentRun
  rw [List.append_assoc, List.cons_append, power, bind_eq_of_eq_ok baseRun,
    bind_eq_of_eq_ok peek_cons, if_pos rfl, bind_eq_of_eq_ok advance_cons,
    bind_eq_of_eq_ok exponentRun]
  exact join_measured low

end Operand

/-- A reader that accepts tokens inside one open level accepts them with one more level. -/
theorem nested_accepted {inside : Reader Measured} {tokens rest : List Token} {tree : Expr}
    {levels : Nat} (accepts : Accepts context inside tokens tree levels rest) :
    Accepts context (nested context inside) tokens tree (levels + 1) rest := by
  intro groups nesting deepest counted room
  have notFull : ¬ context.limits.depth ≤ nesting := by omega
  have run := accepts groups (nesting + 1) (max deepest (nesting + 1)) (by omega) (by omega)
  have deepestEq : max (max deepest (nesting + 1)) (nesting + 1 + levels) =
      max deepest (nesting + (levels + 1)) := by omega
  rw [deepestEq] at run
  simp only [nested, notFull, if_false, run, Nat.add_sub_cancel]

theorem minus_accepted {calls : Nat} {tokens rest : List Token} {tree : Expr}
    {levels position : Nat}
    (accepts : Accepts context (signed context calls) tokens tree levels rest)
    (low : (Expr.negate tree).height ≤ context.limits.height) :
    Accepts context (signed context (calls + 1)) (⟨.operator '-', position⟩ :: tokens)
      (.negate tree) (levels + 1) rest := by
  apply nested_accepted
  intro groups nesting deepest counted room
  rw [List.cons_append, bind_eq_of_eq_ok peek_cons]
  apply (bind_eq_of_eq_ok advance_cons).trans
  rw [bind_eq_of_eq_ok (accepts groups nesting deepest counted room)]
  exact checkHeight_measured low

theorem plus_accepted {calls : Nat} {tokens rest : List Token} {tree : Expr}
    {levels position : Nat}
    (accepts : Accepts context (signed context calls) tokens tree levels rest) :
    Accepts context (signed context (calls + 1)) (⟨.operator '+', position⟩ :: tokens)
      tree (levels + 1) rest := by
  apply nested_accepted
  intro groups nesting deepest counted room
  rw [List.cons_append, bind_eq_of_eq_ok peek_cons]
  apply (bind_eq_of_eq_ok advance_cons).trans
  exact accepts groups nesting deepest counted room

theorem unsigned_accepted {calls : Nat} {tokens rest : List Token} {tree : Expr} {levels : Nat}
    {first : Token} {others : List Token} (head : tokens = first :: others)
    (opens : Grammar.opensPrimary first.kind = true)
    (accepts : Accepts context (power context (signed context calls)) tokens tree levels rest) :
    Accepts context (signed context (calls + 1)) tokens tree (levels + 1) rest := by
  apply nested_accepted
  intro groups nesting deepest counted room
  have run := accepts groups nesting deepest counted room
  obtain ⟨kind, position⟩ := first
  subst head
  rw [List.cons_append] at run ⊢
  rw [bind_eq_of_eq_ok peek_cons]
  cases kind with
  | number value => exact run
  | identifier name => exact run
  | leftParenthesis => exact run
  | _ => cases opens

/-- The loop over the arguments reads a series up to the closing parenthesis. -/
def ReadsSeries (context : Context) (signed : Reader Measured) (tokens : List Token)
    (trees : List Expr) (levels : Nat) : Prop :=
  ∀ steps earlier closingPosition rest groups nesting deepest, tokens.length < steps →
    nesting ≤ deepest → nesting + levels ≤ context.limits.depth →
      argumentsFrom context signed steps earlier
          ⟨tokens ++ ⟨.rightParenthesis, closingPosition⟩ :: rest, groups, nesting, deepest⟩ =
        .ok (earlier.reverse ++ trees.map Expr.measured)
          ⟨rest, groups.tail, nesting, max deepest (nesting + levels)⟩

theorem last_readsSeries {signed : Reader Measured} {tokens : List Token} {tree : Expr}
    {levels : Nat}
    (accepts : ∀ closingPosition rest, Accepts context (sum context signed) tokens tree levels
      (⟨.rightParenthesis, closingPosition⟩ :: rest)) :
    ReadsSeries context signed tokens [tree] levels := by
  intro steps earlier closingPosition rest groups nesting deepest enough counted room
  have sumRun := accepts closingPosition rest groups nesting deepest counted room
  cases steps with
  | zero => omega
  | succ steps =>
      rw [argumentsFrom, bind_eq_of_eq_ok sumRun, bind_eq_of_eq_ok peek_cons, if_neg (by simp),
        bind_eq_of_eq_ok closeGroup_run, List.reverse_cons]
      rfl

theorem next_readsSeries {signed : Reader Measured} {firstTokens restTokens : List Token}
    {first : Expr} {others : List Expr} {firstLevels restLevels position : Nat}
    (accepts : ∀ rest, Accepts context (sum context signed) firstTokens first firstLevels
      (⟨.comma, position⟩ :: rest))
    (reads : ReadsSeries context signed restTokens others restLevels) :
    ReadsSeries context signed (firstTokens ++ ⟨.comma, position⟩ :: restTokens)
      (first :: others) (max firstLevels restLevels) := by
  intro steps earlier closingPosition rest groups nesting deepest enough counted room
  rw [List.length_append, List.length_cons] at enough
  have sumRun := accepts (restTokens ++ ⟨.rightParenthesis, closingPosition⟩ :: rest) groups
    nesting deepest counted (by omega)
  cases steps with
  | zero => omega
  | succ steps =>
      have restRun := reads steps (first.measured :: earlier) closingPosition rest groups nesting
        (max deepest (nesting + firstLevels)) (by omega) (by omega) (by omega)
      rw [deepest_trans] at restRun
      rw [List.append_assoc, List.cons_append, argumentsFrom, bind_eq_of_eq_ok sumRun,
        bind_eq_of_eq_ok peek_cons, if_pos rfl, bind_eq_of_eq_ok advance_cons, restRun,
        List.reverse_cons, List.append_assoc]
      rfl

theorem none_read {signed : Reader Measured} {closingPosition : Nat} {rest : List Token}
    {groups : List Nat} {nesting deepest : Nat} :
    arguments context signed
        ⟨⟨.rightParenthesis, closingPosition⟩ :: rest, groups, nesting, deepest⟩ =
      .ok [] ⟨rest, groups.tail, nesting, deepest⟩ :=
  rfl

theorem some_read {signed : Reader Measured} {tokens : List Token} {trees : List Expr}
    {levels : Nat} {first : Token} {others : List Token} (head : tokens = first :: others)
    (opens : Grammar.opensSum first.kind = true)
    (reads : ReadsSeries context signed tokens trees levels) {closingPosition : Nat}
    {rest : List Token} {groups : List Nat} {nesting deepest : Nat} (counted : nesting ≤ deepest)
    (room : nesting + levels ≤ context.limits.depth) :
    arguments context signed
        ⟨tokens ++ ⟨.rightParenthesis, closingPosition⟩ :: rest, groups, nesting, deepest⟩ =
      .ok (trees.map Expr.measured)
        ⟨rest, groups.tail, nesting, max deepest (nesting + levels)⟩ := by
  have notEmpty : first.kind ≠ .rightParenthesis := by
    intro kind
    rw [kind] at opens
    contradiction
  rw [arguments, bind_eq_of_eq_ok peek_run, if_neg]
  · refine (reads _ [] closingPosition rest groups nesting deepest ?_ counted room).trans rfl
    simp only [List.length_append, List.length_cons]
    omega
  · rw [head]
    exact notEmpty

end Reader

theorem Token.of_kinds_cons {tokens : List Token} {kind : TokenKind} {kinds : List TokenKind}
    (same : tokens.map Token.kind = kind :: kinds) :
    ∃ position others, tokens = ⟨kind, position⟩ :: others ∧ others.map Token.kind = kinds := by
  obtain ⟨token, others, rfl, rfl, othersSame⟩ := List.map_eq_cons_iff.mp same
  exact ⟨token.position, others, rfl, othersSame⟩

theorem Token.of_kinds_around {tokens : List Token} {kind : TokenKind}
    {leftKinds rightKinds : List TokenKind}
    (same : tokens.map Token.kind = leftKinds ++ kind :: rightKinds) :
    ∃ left position right, tokens = left ++ ⟨kind, position⟩ :: right ∧
      left.map Token.kind = leftKinds ∧ right.map Token.kind = rightKinds := by
  obtain ⟨left, behind, rfl, leftSame, behindSame⟩ := List.map_eq_append_iff.mp same
  obtain ⟨position, right, rfl, rightSame⟩ := of_kinds_cons behindSame
  exact ⟨left, position, right, rfl, leftSame, rightSame⟩

namespace Grammar

open Reader

mutual

theorem Sum.reached {context : Context} {kinds : List TokenKind} {tree : Expr} {levels : Nat}
    (sum : Sum kinds tree levels) {tokens rest : List Token} {calls : Nat}
    (same : tokens.map Token.kind = kinds) (stops : Stops .product rest)
    (low : tree.checkedHeight ≤ context.limits.height) (enough : levels ≤ calls) :
    Reaches context ['+', '-'] (Reader.product context (signed context calls)) tokens tree
      levels rest := by
  match sum with
  | .product operand =>
      exact .of_operand ((operand.reached same (stops.mono (by decide)) low enough).accepts _
        stops continues_product)
  | .join operator level left right =>
      obtain ⟨leftTokens, position, rightTokens, rfl, leftSame, rightSame⟩ :=
        Token.of_kinds_around same
      obtain ⟨leftLow, rightLow⟩ := Expr.checkedHeight_operands low
      refine .joined (symbol_mem_sum.mpr level)
        (left.reached leftSame ?_ leftLow (by omega))
        ((right.reached rightSame (stops.mono (by decide)) rightLow (by omega)).accepts _
          stops continues_product) low
      rw [stops_cons, continues_symbol, level]
      decide

theorem Product.reached {context : Context} {kinds : List TokenKind} {tree : Expr} {levels : Nat}
    (product : Product kinds tree levels) {tokens rest : List Token} {calls : Nat}
    (same : tokens.map Token.kind = kinds) (stops : Stops .negation rest)
    (low : tree.checkedHeight ≤ context.limits.height) (enough : levels ≤ calls) :
    Reaches context ['*', '/', '%'] (signed context calls) tokens tree levels rest := by
  match product with
  | .signed operand => exact .of_operand (operand.accepted same stops low enough)
  | .join operator level left right =>
      obtain ⟨leftTokens, position, rightTokens, rfl, leftSame, rightSame⟩ :=
        Token.of_kinds_around same
      obtain ⟨leftLow, rightLow⟩ := Expr.checkedHeight_operands low
      refine .joined (symbol_mem_product.mpr level)
        (left.reached leftSame ?_ leftLow (by omega))
        (right.accepted rightSame stops rightLow (by omega)) low
      rw [stops_cons, continues_symbol, level]
      decide

theorem Signed.accepted {context : Context} {kinds : List TokenKind} {tree : Expr} {levels : Nat}
    (derivation : Signed kinds tree levels) {tokens rest : List Token} {calls : Nat}
    (same : tokens.map Token.kind = kinds) (stops : Stops .negation rest)
    (low : tree.checkedHeight ≤ context.limits.height) (enough : levels ≤ calls) :
    Accepts context (signed context calls) tokens tree levels rest := by
  match derivation with
  | .minus operand =>
      obtain ⟨position, others, rfl, othersSame⟩ := Token.of_kinds_cons same
      obtain ⟨fewer, rfl⟩ := Nat.exists_eq_add_of_le' enough
      have inside := Nat.le_trans (Expr.checkedHeight_le _) (Nat.le_of_succ_le low)
      exact minus_accepted (operand.accepted othersSame stops inside (Nat.le_add_left _ _)) low
  | .plus operand =>
      obtain ⟨position, others, rfl, othersSame⟩ := Token.of_kinds_cons same
      obtain ⟨fewer, rfl⟩ := Nat.exists_eq_add_of_le' enough
      exact plus_accepted (operand.accepted othersSame stops low (Nat.le_add_left _ _))
  | .power operand =>
      obtain ⟨first, rest, head, opens⟩ := operand.head
      obtain ⟨position, others, rfl, _⟩ := Token.of_kinds_cons (same.trans head)
      obtain ⟨fewer, rfl⟩ := Nat.exists_eq_add_of_le' enough
      exact unsigned_accepted rfl opens (operand.accepted same stops low (Nat.le_add_left _ _))

theorem Power.accepted {context : Context} {kinds : List TokenKind} {tree : Expr} {levels : Nat}
    (power : Power kinds tree levels) {tokens rest : List Token} {calls : Nat}
    (same : tokens.map Token.kind = kinds) (stops : Stops .negation rest)
    (low : tree.checkedHeight ≤ context.limits.height) (enough : levels ≤ calls) :
    Accepts context (Reader.power context (signed context calls)) tokens tree levels rest := by
  match power with
  | .primary base =>
      exact power_accepted_primary (stops.mono (by decide))
        (base.accepted same (stops.mono (by decide)) low enough)
  | .raise base exponent =>
      obtain ⟨baseTokens, position, exponentTokens, rfl, baseSame, exponentSame⟩ :=
        Token.of_kinds_around same
      obtain ⟨baseLow, exponentLow⟩ := Expr.checkedHeight_operands low
      have sign : continues .atom (.operator '^') = false := by decide
      exact power_accepted_raise
        (base.accepted baseSame (stops_cons.mpr sign) baseLow (by omega))
        (exponent.accepted exponentSame stops exponentLow (by omega)) low

theorem Primary.accepted {context : Context} {kinds : List TokenKind} {tree : Expr} {levels : Nat}
    (primary : Primary kinds tree levels) {tokens rest : List Token} {calls : Nat}
    (same : tokens.map Token.kind = kinds) (stops : Stops .atom rest)
    (low : tree.checkedHeight ≤ context.limits.height) (enough : levels ≤ calls) :
    Accepts context (Reader.primary context (signed context calls)) tokens tree levels rest := by
  match primary with
  | .number value =>
      obtain ⟨position, others, rfl, othersSame⟩ := Token.of_kinds_cons same
      rw [List.map_eq_nil_iff.mp othersSame]
      exact number_accepted
  | .constant name =>
      obtain ⟨position, others, rfl, othersSame⟩ := Token.of_kinds_cons same
      rw [List.map_eq_nil_iff.mp othersSame]
      exact constant_accepted stops
  | .call function arguments =>
      obtain ⟨position, behindName, rfl, behindSame⟩ := Token.of_kinds_cons same
      obtain ⟨openingPosition, behindOpening, rfl, insideSame⟩ := Token.of_kinds_cons behindSame
      obtain ⟨inside, closingPosition, behind, rfl, argumentsSame, noneSame⟩ :=
        Token.of_kinds_around insideSame
      rw [List.map_eq_nil_iff.mp noneSame]
      have inside : Expr.greatestHeight _ ≤ context.limits.height :=
        Nat.le_trans (Nat.le_add_left _ _) low
      refine call_accepted (fun groups nesting deepest counted room => ?_) low
      exact arguments.read argumentsSame inside enough counted room
  | .group sum =>
      obtain ⟨openingPosition, behindOpening, rfl, insideSame⟩ := Token.of_kinds_cons same
      obtain ⟨inside, closingPosition, behind, rfl, sumSame, noneSame⟩ :=
        Token.of_kinds_around insideSame
      obtain ⟨first, rest, head, opens⟩ := sum.head
      obtain ⟨position, others, rfl, _⟩ := Token.of_kinds_cons (sumSame.trans head)
      rw [List.map_eq_nil_iff.mp noneSame]
      apply group_accepted rfl opens
      exact (sum.reached sumSame (stops_cons.mpr rfl) low enough).accepts .sum
        (stops_cons.mpr rfl) continues_sum

theorem Arguments.read {context : Context} {kinds : List TokenKind} {trees : List Expr}
    {levels : Nat} (derivation : Arguments kinds trees levels) {tokens rest : List Token}
    {calls closingPosition nesting deepest : Nat} {groups : List Nat}
    (same : tokens.map Token.kind = kinds)
    (low : Expr.greatestHeight trees ≤ context.limits.height) (enough : levels ≤ calls)
    (counted : nesting ≤ deepest) (room : nesting + levels ≤ context.limits.depth) :
    arguments context (signed context calls)
        ⟨tokens ++ ⟨.rightParenthesis, closingPosition⟩ :: rest, groups, nesting, deepest⟩ =
      .ok (trees.map Expr.measured)
        ⟨rest, groups.tail, nesting, max deepest (nesting + levels)⟩ := by
  match derivation with
  | .none =>
      rw [List.map_eq_nil_iff.mp same, Nat.add_zero, Nat.max_eq_left counted]
      exact none_read
  | .some series =>
      obtain ⟨first, rest, head, opens⟩ := series.head
      obtain ⟨position, others, rfl, _⟩ := Token.of_kinds_cons (same.trans head)
      exact some_read rfl opens (series.read same low enough) counted room

theorem Series.read {context : Context} {kinds : List TokenKind} {trees : List Expr}
    {levels : Nat} (series : Series kinds trees levels) {tokens : List Token} {calls : Nat}
    (same : tokens.map Token.kind = kinds)
    (low : Expr.greatestHeight trees ≤ context.limits.height) (enough : levels ≤ calls) :
    ReadsSeries context (signed context calls) tokens trees levels := by
  match series with
  | .last sum =>
      have sumLow := Nat.le_trans (Expr.checkedHeight_le _) (Nat.le_trans (Nat.le_max_left _ _) low)
      refine last_readsSeries fun closingPosition rest => ?_
      exact (sum.reached same (stops_cons.mpr rfl) sumLow enough).accepts .sum
        (stops_cons.mpr rfl) continues_sum
  | .next first others =>
      obtain ⟨firstTokens, position, otherTokens, rfl, firstSame, othersSame⟩ :=
        Token.of_kinds_around same
      have firstLow :=
        Nat.le_trans (Expr.checkedHeight_le _) (Nat.le_trans (Nat.le_max_left _ _) low)
      have othersLow := Nat.le_trans (Nat.le_max_right _ _) low
      refine next_readsSeries (fun rest => ?_) (others.read othersSame othersLow (by omega))
      exact (first.reached firstSame (stops_cons.mpr rfl) firstLow (by omega)).accepts .sum
        (stops_cons.mpr rfl) continues_sum

end

end Grammar

namespace Reader

/-- Tokens that form a sum are read to the end, with as many levels as the derivation has. -/
theorem whole_of_sum (context : Context) {tokens : List Token} {tree : Expr} {levels : Nat}
    (sum : Grammar.Sum (tokens.map Token.kind) tree levels)
    (depth : levels ≤ context.limits.depth)
    (height : tree.checkedHeight ≤ context.limits.height) :
    whole context ⟨tokens, [], 0, 0⟩ = .ok tree ⟨[], [], 0, levels⟩ := by
  obtain ⟨first, rest, head, opens⟩ := sum.head
  obtain ⟨position, others, rfl, _⟩ := Token.of_kinds_cons head
  have notEnd : first ≠ .finish := by
    rintro rfl
    contradiction
  have sumRun := (sum.reached rfl stops_nil height depth).accepts .sum
    stops_nil continues_sum [] 0 0 (Nat.le_refl 0) (by omega)
  rw [List.append_nil, Nat.zero_add, Nat.zero_max] at sumRun
  rw [whole, bind_eq_of_eq_ok peek_cons, if_neg notEnd]
  exact (bind_eq_of_eq_ok sumRun).trans rfl

end Reader

/-- A list of kinds of tokens has at most one derivation. -/
theorem Grammar.Sum.unique {kinds : List TokenKind} {tree other : Expr}
    {levels otherLevels : Nat} (sum : Grammar.Sum kinds tree levels)
    (otherSum : Grammar.Sum kinds other otherLevels) : tree = other ∧ levels = otherLevels := by
  let tokens := kinds.map (Token.mk · 0)
  have same : tokens.map Token.kind = kinds := by simp [tokens, Function.comp_def]
  let context : Reader.Context :=
    ⟨⟨max levels otherLevels, max tree.checkedHeight other.checkedHeight⟩, 0⟩
  have run := Reader.whole_of_sum context (same.symm ▸ sum) (Nat.le_max_left _ _)
    (Nat.le_max_left _ _)
  have otherRun := Reader.whole_of_sum context (same.symm ▸ otherSum)
    (Nat.le_max_right _ _) (Nat.le_max_right _ _)
  rw [run] at otherRun
  simpa using otherRun

namespace Expr

variable {limits : Limits} {tokens : List Token} {tree : Expr}

theorem ofTokens_of_sum {levels : Nat}
    (sum : Grammar.Sum (Token.significant tokens) tree levels) (depth : levels ≤ limits.depth)
    (height : tree.checkedHeight ≤ limits.height) : ofTokens limits tokens = .ok tree := by
  have run : reading limits tokens = .ok tree ⟨[], [], 0, levels⟩ :=
    Reader.whole_of_sum (.ofTokens limits tokens) sum depth height
  exact ofTokens_eq_ok_iff_reading.mpr ⟨_, run⟩

theorem sum_of_ofTokens (success : ofTokens limits tokens = .ok tree) :
    ∃ levels, Grammar.Sum (Token.significant tokens) tree levels ∧
      levels ≤ limits.depth ∧ tree.checkedHeight ≤ limits.height := by
  obtain ⟨final, run⟩ := ofTokens_eq_ok_iff_reading.mp success
  have read := readWhole_of_reading run
  obtain ⟨levels, sum, deepest⟩ := read.derivation
  have within := read.within.deepest_le
  rw [deepest] at within
  simp only [Reader.Context.ofTokens, Reader.State.ofTokens] at within
  exact ⟨levels, sum, by omega, read.height_le⟩

/-- Within the limits, building an expression and deriving it are the same. -/
theorem ofTokens_eq_ok_iff (positive : 0 < limits.height) :
    ofTokens limits tokens = .ok tree ↔
      ∃ levels, Grammar.Sum (Token.significant tokens) tree levels ∧
        levels ≤ limits.depth ∧ tree.height ≤ limits.height := by
  constructor
  · intro success
    obtain ⟨levels, sum, depth, checked⟩ := sum_of_ofTokens success
    have height := tree.height_le
    exact ⟨levels, sum, depth, by omega⟩
  · rintro ⟨levels, sum, depth, height⟩
    exact ofTokens_of_sum sum depth (Nat.le_trans tree.checkedHeight_le height)

end Expr

theorem Token.significant_closed {tokens : List Token} (position : Nat)
    (inside : ∀ token ∈ tokens, token.kind ≠ .finish) :
    significant (tokens ++ [⟨.finish, position⟩]) = tokens.map Token.kind := by
  rw [significant, takeWhile_first_finish inside rfl]

namespace Expr

/-- Where the limits allow for every token, a list of tokens in front of the end is built into a
tree exactly if the grammar derives that tree from the whole list; there is at most one such tree,
and where there is none the list is refused. -/
theorem ofTokens_eq_ok_iff_derives {limits : Limits} {tokens : List Token} {position : Nat}
    (inside : ∀ token ∈ tokens, token.kind ≠ .finish) (depth : tokens.length ≤ limits.depth)
    (height : tokens.length ≤ limits.height) :
    (∀ tree, ofTokens limits (tokens ++ [⟨.finish, position⟩]) = .ok tree ↔
        Grammar.Derives (tokens.map Token.kind) tree) ∧
      (∀ tree other, Grammar.Derives (tokens.map Token.kind) tree →
        Grammar.Derives (tokens.map Token.kind) other → tree = other) ∧
      ((¬ ∃ tree, Grammar.Derives (tokens.map Token.kind) tree) →
        ∃ error, ofTokens limits (tokens ++ [⟨.finish, position⟩]) = .error error) := by
  have equivalent : ∀ tree, ofTokens limits (tokens ++ [⟨.finish, position⟩]) = .ok tree ↔
      Grammar.Derives (tokens.map Token.kind) tree := by
    intro tree
    rw [← Token.significant_closed position inside]
    constructor
    · intro success
      obtain ⟨levels, sum, _⟩ := sum_of_ofTokens success
      exact ⟨levels, sum⟩
    · rintro ⟨levels, sum⟩
      have bounds := sum.bounds
      rw [Token.significant_closed position inside, List.length_map] at bounds
      have low := Nat.le_trans tree.checkedHeight_le bounds.2
      exact ofTokens_of_sum sum (Nat.le_trans bounds.1 depth) (Nat.le_trans low height)
  refine ⟨equivalent, ?_, ?_⟩
  · rintro tree other ⟨levels, sum⟩ ⟨otherLevels, otherSum⟩
    exact (sum.unique otherSum).1
  · intro underivable
    cases result : ofTokens limits (tokens ++ [⟨.finish, position⟩]) with
    | ok tree => exact absurd ⟨tree, (equivalent tree).mp result⟩ underivable
    | error error => exact ⟨error, rfl⟩

/-- The tokens of `x / 2 ^ - 1` derive a quotient whose divisor is a power, and it is built. -/
theorem ofTokens_quotient_of_power :
    let tokens : List Token := [⟨.identifier "x", 0⟩, ⟨.operator '/', 1⟩, ⟨.number 2, 2⟩,
      ⟨.operator '^', 3⟩, ⟨.operator '-', 4⟩, ⟨.number 1, 5⟩]
    let tree : Expr :=
      .binary .divide (.constant "x") (.binary .power (.literal 2) (.negate (.literal 1)))
    (∀ token ∈ tokens, token.kind ≠ .finish) ∧ tokens.length ≤ 6 ∧
      ofTokens ⟨6, 6⟩ (tokens ++ [⟨.finish, 6⟩]) = .ok tree := by
  intro tokens tree
  have inside : ∀ token ∈ tokens, token.kind ≠ .finish := by simp [tokens]
  refine ⟨inside, by decide, ?_⟩
  have built := @ofTokens_eq_ok_iff_derives ⟨6, 6⟩ tokens 6 inside (by decide) (by decide)
  refine (built.1 tree).mpr ⟨3, ?_⟩
  have exponent : Grammar.Signed [.operator '-', .number 1] (.negate (.literal 1)) 2 :=
    .minus (.power (.primary (.number 1)))
  have divisor : Grammar.Signed [.number 2, .operator '^', .operator '-', .number 1]
      (.binary .power (.literal 2) (.negate (.literal 1))) 3 :=
    .power (.raise (.number 2) exponent)
  have dividend : Grammar.Product [.identifier "x"] (.constant "x") 1 :=
    .signed (.power (.primary (.constant "x")))
  exact .product (.join .divide rfl dividend divisor)

end Expr

end Reckoner
