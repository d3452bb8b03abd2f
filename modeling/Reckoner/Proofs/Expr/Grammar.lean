import Reckoner.Expr.OfTokens

/-!
# The grammar of expressions

The grammar as derivations, apart from any reader.  `Grammar.Sum kinds tree levels` says that the
kinds of tokens form a sum whose tree is `tree`.  The number `levels` belongs to the derivation:
it is the greatest number of signed operands that lie inside one another in it, the outermost
included.

A derivation needs no more levels, and its tree is no higher, than it has tokens.
-/

namespace Reckoner

namespace Grammar

mutual

/-- Products joined by `+` and `-`, grouping to the left. -/
inductive Sum : List TokenKind → Expr → Nat → Prop where
  | product {kinds : List TokenKind} {tree : Expr} {levels : Nat} :
      Product kinds tree levels → Sum kinds tree levels
  | join {leftKinds rightKinds : List TokenKind} {left right : Expr}
      {leftLevels rightLevels : Nat} (operator : Operator) :
      operator.level = .sum →
      Sum leftKinds left leftLevels → Product rightKinds right rightLevels →
      Sum (leftKinds ++ .operator operator.symbol :: rightKinds)
        (.binary operator left right) (max leftLevels rightLevels)

/-- Signed operands joined by `*`, `/` and `%`, grouping to the left. -/
inductive Product : List TokenKind → Expr → Nat → Prop where
  | signed {kinds : List TokenKind} {tree : Expr} {levels : Nat} :
      Signed kinds tree levels → Product kinds tree levels
  | join {leftKinds rightKinds : List TokenKind} {left right : Expr}
      {leftLevels rightLevels : Nat} (operator : Operator) :
      operator.level = .product →
      Product leftKinds left leftLevels → Signed rightKinds right rightLevels →
      Product (leftKinds ++ .operator operator.symbol :: rightKinds)
        (.binary operator left right) (max leftLevels rightLevels)

/-- A power behind any number of signs.  Each sign opens a level, and so does the power. -/
inductive Signed : List TokenKind → Expr → Nat → Prop where
  | minus {kinds : List TokenKind} {tree : Expr} {levels : Nat} :
      Signed kinds tree levels →
      Signed (.operator '-' :: kinds) (.negate tree) (levels + 1)
  | plus {kinds : List TokenKind} {tree : Expr} {levels : Nat} :
      Signed kinds tree levels → Signed (.operator '+' :: kinds) tree (levels + 1)
  | power {kinds : List TokenKind} {tree : Expr} {levels : Nat} :
      Power kinds tree levels → Signed kinds tree (levels + 1)

/-- A primary, or a primary raised to a signed operand. -/
inductive Power : List TokenKind → Expr → Nat → Prop where
  | primary {kinds : List TokenKind} {tree : Expr} {levels : Nat} :
      Primary kinds tree levels → Power kinds tree levels
  | raise {baseKinds exponentKinds : List TokenKind} {base exponent : Expr}
      {baseLevels exponentLevels : Nat} :
      Primary baseKinds base baseLevels → Signed exponentKinds exponent exponentLevels →
      Power (baseKinds ++ .operator '^' :: exponentKinds) (.binary .power base exponent)
        (max baseLevels exponentLevels)

/-- A number, a name, a call, or a sum in parentheses. -/
inductive Primary : List TokenKind → Expr → Nat → Prop where
  | number (value : Float) : Primary [.number value] (.literal value) 0
  | constant (name : String) : Primary [.identifier name] (.constant name) 0
  | call {kinds : List TokenKind} {arguments : List Expr} {levels : Nat} (function : String) :
      Arguments kinds arguments levels →
      Primary (.identifier function :: .leftParenthesis :: (kinds ++ [.rightParenthesis]))
        (.call function arguments) levels
  | group {kinds : List TokenKind} {tree : Expr} {levels : Nat} :
      Sum kinds tree levels →
      Primary (.leftParenthesis :: (kinds ++ [.rightParenthesis])) tree levels

inductive Arguments : List TokenKind → List Expr → Nat → Prop where
  | none : Arguments [] [] 0
  | some {kinds : List TokenKind} {arguments : List Expr} {levels : Nat} :
      Series kinds arguments levels → Arguments kinds arguments levels

/-- Sums divided by commas, at least one. -/
inductive Series : List TokenKind → List Expr → Nat → Prop where
  | last {kinds : List TokenKind} {argument : Expr} {levels : Nat} :
      Sum kinds argument levels → Series kinds [argument] levels
  | next {firstKinds restKinds : List TokenKind} {first : Expr} {rest : List Expr}
      {firstLevels restLevels : Nat} :
      Sum firstKinds first firstLevels → Series restKinds rest restLevels →
      Series (firstKinds ++ .comma :: restKinds) (first :: rest) (max firstLevels restLevels)

end

/-- The kinds of tokens form a whole expression with this tree. -/
def Derives (kinds : List TokenKind) (tree : Expr) : Prop :=
  ∃ levels, Sum kinds tree levels

mutual

theorem Sum.bounds {kinds : List TokenKind} {tree : Expr} {levels : Nat}
    (sum : Sum kinds tree levels) :
    levels ≤ kinds.length ∧ tree.height ≤ kinds.length := by
  match sum with
  | .product product => exact product.bounds
  | .join operator _ left right =>
      have leftBounds := left.bounds
      have rightBounds := right.bounds
      simp only [List.length_append, List.length_cons, Expr.height]
      omega

theorem Product.bounds {kinds : List TokenKind} {tree : Expr} {levels : Nat}
    (product : Product kinds tree levels) :
    levels ≤ kinds.length ∧ tree.height ≤ kinds.length := by
  match product with
  | .signed signed => exact signed.bounds
  | .join operator _ left right =>
      have leftBounds := left.bounds
      have rightBounds := right.bounds
      simp only [List.length_append, List.length_cons, Expr.height]
      omega

theorem Signed.bounds {kinds : List TokenKind} {tree : Expr} {levels : Nat}
    (signed : Signed kinds tree levels) :
    levels ≤ kinds.length ∧ tree.height ≤ kinds.length := by
  match signed with
  | .minus operand =>
      have operandBounds := operand.bounds
      simp only [List.length_cons, Expr.height]
      omega
  | .plus operand =>
      have operandBounds := operand.bounds
      simp only [List.length_cons]
      omega
  | .power power =>
      have powerBounds := power.bounds
      omega

/-- The level that a signed operand opens is paid for by a token that is no sign. -/
theorem Power.bounds {kinds : List TokenKind} {tree : Expr} {levels : Nat}
    (power : Power kinds tree levels) :
    levels < kinds.length ∧ tree.height ≤ kinds.length := by
  match power with
  | .primary primary => exact primary.bounds
  | .raise base exponent =>
      have baseBounds := base.bounds
      have exponentBounds := exponent.bounds
      simp only [List.length_append, List.length_cons, Expr.height]
      omega

theorem Primary.bounds {kinds : List TokenKind} {tree : Expr} {levels : Nat}
    (primary : Primary kinds tree levels) :
    levels < kinds.length ∧ tree.height ≤ kinds.length := by
  match primary with
  | .number _ => simp [Expr.height]
  | .constant _ => simp [Expr.height]
  | .call _ arguments =>
      have argumentsBounds := arguments.bounds
      simp only [List.length_append, List.length_cons, Expr.height]
      omega
  | .group sum =>
      have sumBounds := sum.bounds
      simp only [List.length_append, List.length_cons]
      omega

theorem Arguments.bounds {kinds : List TokenKind} {arguments : List Expr} {levels : Nat}
    (derivation : Arguments kinds arguments levels) :
    levels ≤ kinds.length ∧ Expr.greatestHeight arguments ≤ kinds.length := by
  match derivation with
  | .none => simp [Expr.greatestHeight]
  | .some series => exact series.bounds

theorem Series.bounds {kinds : List TokenKind} {arguments : List Expr} {levels : Nat}
    (series : Series kinds arguments levels) :
    levels ≤ kinds.length ∧ Expr.greatestHeight arguments ≤ kinds.length := by
  match series with
  | .last sum =>
      have sumBounds := sum.bounds
      simp only [Expr.greatestHeight]
      omega
  | .next first rest =>
      have firstBounds := first.bounds
      have restBounds := rest.bounds
      simp only [List.length_append, List.length_cons, Expr.greatestHeight]
      omega

end

/-- Whether a primary starts with a token of this kind. -/
def opensPrimary : TokenKind → Bool
  | .number _ | .identifier _ | .leftParenthesis => true
  | _ => false

/-- Whether a sum starts with a token of this kind. -/
def opensSum : TokenKind → Bool
  | .operator symbol => symbol = '+' ∨ symbol = '-'
  | kind => opensPrimary kind

theorem opensSum_of_opensPrimary {kind : TokenKind} (opens : opensPrimary kind = true) :
    opensSum kind = true := by
  cases kind <;> simp_all [opensSum, opensPrimary]

theorem Primary.head {kinds : List TokenKind} {tree : Expr} {levels : Nat}
    (primary : Primary kinds tree levels) :
    ∃ first rest, kinds = first :: rest ∧ opensPrimary first = true := by
  match primary with
  | .number _ => exact ⟨_, _, rfl, rfl⟩
  | .constant _ => exact ⟨_, _, rfl, rfl⟩
  | .call _ _ => exact ⟨_, _, rfl, rfl⟩
  | .group _ => exact ⟨_, _, rfl, rfl⟩

theorem Power.head {kinds : List TokenKind} {tree : Expr} {levels : Nat}
    (power : Power kinds tree levels) :
    ∃ first rest, kinds = first :: rest ∧ opensPrimary first = true := by
  match power with
  | .primary base => exact base.head
  | .raise base _ =>
      obtain ⟨first, rest, rfl, opens⟩ := base.head
      exact ⟨first, _, List.cons_append, opens⟩

theorem Signed.head {kinds : List TokenKind} {tree : Expr} {levels : Nat}
    (signed : Signed kinds tree levels) :
    ∃ first rest, kinds = first :: rest ∧ opensSum first = true := by
  match signed with
  | .minus _ => exact ⟨_, _, rfl, by decide⟩
  | .plus _ => exact ⟨_, _, rfl, by decide⟩
  | .power operand =>
      obtain ⟨first, rest, same, opens⟩ := operand.head
      exact ⟨first, rest, same, opensSum_of_opensPrimary opens⟩

theorem Product.head {kinds : List TokenKind} {tree : Expr} {levels : Nat}
    (product : Product kinds tree levels) :
    ∃ first rest, kinds = first :: rest ∧ opensSum first = true := by
  match product with
  | .signed operand => exact operand.head
  | .join _ _ left _ =>
      obtain ⟨first, rest, rfl, opens⟩ := left.head
      exact ⟨first, _, List.cons_append, opens⟩

theorem Sum.head {kinds : List TokenKind} {tree : Expr} {levels : Nat}
    (sum : Sum kinds tree levels) :
    ∃ first rest, kinds = first :: rest ∧ opensSum first = true := by
  match sum with
  | .product operand => exact operand.head
  | .join _ _ left _ =>
      obtain ⟨first, rest, rfl, opens⟩ := left.head
      exact ⟨first, _, List.cons_append, opens⟩

theorem Series.head {kinds : List TokenKind} {arguments : List Expr} {levels : Nat}
    (series : Series kinds arguments levels) :
    ∃ first rest, kinds = first :: rest ∧ opensSum first = true := by
  match series with
  | .last argument => exact argument.head
  | .next argument _ =>
      obtain ⟨first, rest, rfl, opens⟩ := argument.head
      exact ⟨first, _, List.cons_append, opens⟩

end Grammar

end Reckoner
