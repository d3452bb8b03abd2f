import Reckoner.Proofs.Expr.Limits
import Reckoner.Proofs.Expr.RoundTrip
import Reckoner.Proofs.Expr.Substitution

/-!
# Tokens in place of a name

A primary can stand wherever a name can.  If its tokens take the place of the name among the tokens
of an expression, its tree takes the place of the name in the tree, as long as the name is not
called.  So these tokens make the expression in which the name is substituted, unless it is nested
too deeply; and the one token of a number makes nothing deeper or higher than the name.
-/

namespace Reckoner

namespace TokenKind

variable {name : String} {piece : List TokenKind}

/-- The kinds with others in place of a name. -/
def exchange (name : String) (piece kinds : List TokenKind) : List TokenKind :=
  kinds.flatMap fun kind => if kind = .identifier name then piece else [kind]

@[simp] theorem exchange_nil : exchange name piece [] = [] :=
  rfl

@[simp] theorem exchange_append (first second : List TokenKind) :
    exchange name piece (first ++ second) =
      exchange name piece first ++ exchange name piece second :=
  List.flatMap_append

@[simp] theorem exchange_cons_self (rest : List TokenKind) :
    exchange name piece (.identifier name :: rest) = piece ++ exchange name piece rest := by
  simp [exchange]

theorem exchange_cons_of_ne {kind : TokenKind} (different : kind ≠ .identifier name)
    (rest : List TokenKind) :
    exchange name piece (kind :: rest) = kind :: exchange name piece rest := by
  simp [exchange, different]

variable (rest : List TokenKind)

@[simp] theorem exchange_operator (symbol : Char) :
    exchange name piece (.operator symbol :: rest) =
      .operator symbol :: exchange name piece rest :=
  exchange_cons_of_ne (by simp) rest

@[simp] theorem exchange_comma :
    exchange name piece (.comma :: rest) = .comma :: exchange name piece rest :=
  exchange_cons_of_ne (by simp) rest

@[simp] theorem exchange_leftParenthesis :
    exchange name piece (.leftParenthesis :: rest) =
      .leftParenthesis :: exchange name piece rest :=
  exchange_cons_of_ne (by simp) rest

@[simp] theorem exchange_rightParenthesis :
    exchange name piece (.rightParenthesis :: rest) =
      .rightParenthesis :: exchange name piece rest :=
  exchange_cons_of_ne (by simp) rest

end TokenKind

namespace Grammar

open TokenKind (exchange exchange_nil exchange_append exchange_cons_self exchange_cons_of_ne
  exchange_operator exchange_comma exchange_leftParenthesis exchange_rightParenthesis)

variable {name : String} {piece : List TokenKind} {other : Expr} {deeper : Nat}

mutual

/-- The tokens of a primary in place of a name make its tree in place of the name, and open no more
levels than it has. -/
theorem Sum.substitute {kinds : List TokenKind} {tree : Expr} {levels : Nat}
    (sum : Sum kinds tree levels) (primary : Primary piece other deeper)
    (apart : name ∉ tree.functions) :
    ∃ nested ≤ levels + deeper,
      Sum (exchange name piece kinds) (tree.substitute name other) nested := by
  match sum with
  | .product product =>
      obtain ⟨nested, bound, derivation⟩ := product.substitute primary apart
      exact ⟨nested, bound, .product derivation⟩
  | .join operator level left right =>
      rw [Expr.functions, List.mem_append, not_or] at apart
      obtain ⟨leftNested, leftBound, leftSum⟩ := left.substitute primary apart.1
      obtain ⟨rightNested, rightBound, rightProduct⟩ := right.substitute primary apart.2
      rw [exchange_append, exchange_operator]
      exact ⟨_, by omega, .join operator level leftSum rightProduct⟩

theorem Product.substitute {kinds : List TokenKind} {tree : Expr} {levels : Nat}
    (product : Product kinds tree levels) (primary : Primary piece other deeper)
    (apart : name ∉ tree.functions) :
    ∃ nested ≤ levels + deeper,
      Product (exchange name piece kinds) (tree.substitute name other) nested := by
  match product with
  | .signed signed =>
      obtain ⟨nested, bound, derivation⟩ := signed.substitute primary apart
      exact ⟨nested, bound, .signed derivation⟩
  | .join operator level left right =>
      rw [Expr.functions, List.mem_append, not_or] at apart
      obtain ⟨leftNested, leftBound, leftProduct⟩ := left.substitute primary apart.1
      obtain ⟨rightNested, rightBound, rightSigned⟩ := right.substitute primary apart.2
      rw [exchange_append, exchange_operator]
      exact ⟨_, by omega, .join operator level leftProduct rightSigned⟩

theorem Signed.substitute {kinds : List TokenKind} {tree : Expr} {levels : Nat}
    (signed : Signed kinds tree levels) (primary : Primary piece other deeper)
    (apart : name ∉ tree.functions) :
    ∃ nested ≤ levels + deeper,
      Signed (exchange name piece kinds) (tree.substitute name other) nested := by
  match signed with
  | .minus operand =>
      obtain ⟨nested, bound, derivation⟩ := operand.substitute primary apart
      rw [exchange_operator]
      exact ⟨_, by omega, .minus derivation⟩
  | .plus operand =>
      obtain ⟨nested, bound, derivation⟩ := operand.substitute primary apart
      rw [exchange_operator]
      exact ⟨_, by omega, .plus derivation⟩
  | .power power =>
      obtain ⟨nested, bound, derivation⟩ := power.substitute primary apart
      exact ⟨_, by omega, .power derivation⟩

theorem Power.substitute {kinds : List TokenKind} {tree : Expr} {levels : Nat}
    (power : Power kinds tree levels) (primary : Primary piece other deeper)
    (apart : name ∉ tree.functions) :
    ∃ nested ≤ levels + deeper,
      Power (exchange name piece kinds) (tree.substitute name other) nested := by
  match power with
  | .primary operand =>
      obtain ⟨nested, bound, derivation⟩ := operand.substitute primary apart
      exact ⟨nested, bound, .primary derivation⟩
  | .raise base exponent =>
      rw [Expr.functions, List.mem_append, not_or] at apart
      obtain ⟨baseNested, baseBound, basePrimary⟩ := base.substitute primary apart.1
      obtain ⟨exponentNested, exponentBound, exponentSigned⟩ :=
        exponent.substitute primary apart.2
      rw [exchange_append, exchange_operator]
      exact ⟨_, by omega, .raise basePrimary exponentSigned⟩

theorem Primary.substitute {kinds : List TokenKind} {tree : Expr} {levels : Nat}
    (operand : Primary kinds tree levels) (primary : Primary piece other deeper)
    (apart : name ∉ tree.functions) :
    ∃ nested ≤ levels + deeper,
      Primary (exchange name piece kinds) (tree.substitute name other) nested := by
  match operand with
  | .number value => exact ⟨0, Nat.zero_le _, .number value⟩
  | .constant found =>
      rw [Expr.substitute]
      by_cases same : found = name
      · rw [if_pos same, same, exchange_cons_self, exchange_nil, List.append_nil]
        exact ⟨deeper, by omega, primary⟩
      · rw [if_neg same, exchange_cons_of_ne (by simpa using same)]
        exact ⟨0, Nat.zero_le _, .constant found⟩
  | .call function arguments =>
      -- the token in front of the parenthesis is a name too, but not the one that is replaced
      rw [Expr.functions, List.mem_cons, not_or] at apart
      obtain ⟨nested, bound, derivation⟩ := arguments.substitute primary apart.2
      rw [exchange_cons_of_ne (by simpa using Ne.symm apart.1), exchange_leftParenthesis,
        exchange_append, exchange_rightParenthesis]
      exact ⟨nested, bound, .call function derivation⟩
  | .group sum =>
      obtain ⟨nested, bound, derivation⟩ := sum.substitute primary apart
      rw [exchange_leftParenthesis, exchange_append, exchange_rightParenthesis]
      exact ⟨nested, bound, .group derivation⟩

theorem Arguments.substitute {kinds : List TokenKind} {arguments : List Expr} {levels : Nat}
    (derivation : Arguments kinds arguments levels) (primary : Primary piece other deeper)
    (apart : name ∉ Expr.functionsAll arguments) :
    ∃ nested ≤ levels + deeper,
      Arguments (exchange name piece kinds) (Expr.substituteAll arguments name other) nested := by
  match derivation with
  | .none => exact ⟨0, Nat.zero_le _, .none⟩
  | .some series =>
      obtain ⟨nested, bound, substituted⟩ := series.substitute primary apart
      exact ⟨nested, bound, .some substituted⟩

theorem Series.substitute {kinds : List TokenKind} {arguments : List Expr} {levels : Nat}
    (series : Series kinds arguments levels) (primary : Primary piece other deeper)
    (apart : name ∉ Expr.functionsAll arguments) :
    ∃ nested ≤ levels + deeper,
      Series (exchange name piece kinds) (Expr.substituteAll arguments name other) nested := by
  match series with
  | .last sum =>
      rw [Expr.functionsAll, List.mem_append, not_or] at apart
      obtain ⟨nested, bound, derivation⟩ := sum.substitute primary apart.1
      exact ⟨nested, bound, .last derivation⟩
  | .next first rest =>
      rw [Expr.functionsAll, List.mem_append, not_or] at apart
      obtain ⟨firstNested, firstBound, firstSum⟩ := first.substitute primary apart.1
      obtain ⟨restNested, restBound, restSeries⟩ := rest.substitute primary apart.2
      rw [exchange_append, exchange_comma]
      exact ⟨_, by omega, .next firstSum restSeries⟩

end

end Grammar

namespace Expr

open TokenKind (exchange)

variable {name : String} {other : Expr}

mutual

/-- What is as low as a name makes nothing higher in its place. -/
theorem height_substitute (low : other.height = 1) (tree : Expr) :
    (tree.substitute name other).height = tree.height := by
  match tree with
  | .literal value => rfl
  | .constant found =>
      rw [substitute]
      split
      · exact low
      · rfl
  | .negate operand => rw [substitute, height, height, height_substitute low operand]
  | .binary operator left right =>
      rw [substitute, height, height, height_substitute low left, height_substitute low right]
  | .call function arguments =>
      rw [substitute, height, height, greatestHeight_substituteAll low arguments]

theorem greatestHeight_substituteAll (low : other.height = 1) (trees : List Expr) :
    greatestHeight (substituteAll trees name other) = greatestHeight trees := by
  match trees with
  | [] => rfl
  | tree :: rest =>
      rw [substituteAll, greatestHeight, greatestHeight, height_substitute low tree,
        greatestHeight_substituteAll low rest]

end

theorem checkedHeight_substitute (tree : Expr) (value : Float) :
    (tree.substitute name (.literal value)).checkedHeight = tree.checkedHeight := by
  cases tree with
  | literal number => rfl
  | constant found =>
      rw [substitute]
      split <;> rfl
  | negate operand => exact height_substitute rfl (.negate operand)
  | binary operator left right => exact height_substitute rfl (.binary operator left right)
  | call function arguments => exact height_substitute rfl (.call function arguments)

variable {limits : Limits} {tokens others : List Token} {tree : Expr}

/-- A number in place of a name stays within the limits that allow for the name. -/
theorem ofTokens_exchange_number {value : Float} (built : ofTokens limits tokens = .ok tree)
    (apart : name ∉ tree.functions)
    (exchanged : Token.significant others =
      exchange name [.number value] (Token.significant tokens)) :
    ofTokens limits others = .ok (tree.substitute name (.literal value)) := by
  obtain ⟨levels, sum, depth, height⟩ := sum_of_ofTokens built
  obtain ⟨nested, bound, substituted⟩ := sum.substitute (.number value) apart
  refine ofTokens_of_sum (exchanged.symm ▸ substituted) (Nat.le_trans bound depth) ?_
  rw [checkedHeight_substitute]
  exact height

/-- Whatever primary takes the place of the name, only a limit can keep it from being read. -/
theorem ofTokens_exchange {piece : List TokenKind} {deeper : Nat}
    (primary : Grammar.Primary piece other deeper) (built : ofTokens limits tokens = .ok tree)
    (apart : name ∉ tree.functions)
    (exchanged : Token.significant others = exchange name piece (Token.significant tokens)) :
    ofTokens limits others = .ok (tree.substitute name other) ∨
      ∃ limit, ofTokens limits others = .error (.tooDeep limit) := by
  obtain ⟨levels, sum, _⟩ := sum_of_ofTokens built
  obtain ⟨nested, _, substituted⟩ := sum.substitute primary apart
  rw [← exchanged] at substituted
  let wide : Limits :=
    ⟨(Token.significant others).length + 1, (Token.significant others).length + 1⟩
  have depth : (Token.significant others).length < wide.depth := Nat.lt_succ_self _
  have height : (Token.significant others).length < wide.height := Nat.lt_succ_self _
  have bounds := substituted.bounds
  have low := (tree.substitute name other).checkedHeight_le
  have whole : ofTokens wide others = .ok (tree.substitute name other) := by
    refine ofTokens_of_sum substituted ?_ ?_ <;> omega
  rcases ofTokens_eq_or_tooDeep depth height with same | ⟨limit, stopped, _⟩
  · exact .inl (same.trans whole)
  · exact .inr ⟨limit, stopped⟩

end Expr

end Reckoner
