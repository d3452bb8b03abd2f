import Reckoner.Operator
import Reckoner.Number.Units

/-!
# Expressions

The tree of an arithmetic expression, how tightly its outermost form binds, and its height.  Trees
are compared with numbers as doubles: `-0` is the same as `0`, and an undefined number differs
from itself.
-/

namespace Reckoner

inductive Expr where
  | literal (value : Float)
  /-- A name that stands for a constant. -/
  | constant (name : String)
  | negate (operand : Expr)
  | binary (operator : Operator) (left right : Expr)
  | call (function : String) (arguments : List Expr)
deriving Repr

/-- How tightly a form binds its operands, loosest first. -/
inductive Level where
  | sum
  | product
  | negation
  | power
  | atom
deriving Repr, DecidableEq

namespace Level

def rank : Level → Nat
  | .sum => 1
  | .product => 2
  | .negation => 3
  | .power => 4
  | .atom => 5

instance : LT Level where
  lt left right := left.rank < right.rank

instance : LE Level where
  le left right := left.rank ≤ right.rank

instance (left right : Level) : Decidable (left < right) :=
  inferInstanceAs (Decidable (left.rank < right.rank))

instance (left right : Level) : Decidable (left ≤ right) :=
  inferInstanceAs (Decidable (left.rank ≤ right.rank))

end Level

def Operator.level : Operator → Level
  | .add | .subtract => .sum
  | .multiply | .divide | .remainder => .product
  | .power => .power

namespace Expr

/-- The level of an expression's outermost form.  A literal below zero is written with a sign, so
it binds like a negation. -/
def level : Expr → Level
  | .literal value => if Number.isNegative value then .negation else .atom
  | .constant _ => .atom
  | .negate _ => .negation
  | .binary operator _ _ => operator.level
  | .call _ _ => .atom

mutual

/-- Whether two expressions have the same form, with equal numbers at the same places. -/
def same : Expr → Expr → Bool
  | .literal left, .literal right => left == right
  | .constant left, .constant right => left == right
  | .negate left, .negate right => same left right
  | .binary operator left right, .binary operator' left' right' =>
    operator == operator' && same left left' && same right right'
  | .call function arguments, .call function' arguments' =>
    function == function' && sameAll arguments arguments'
  | _, _ => false

def sameAll : List Expr → List Expr → Bool
  | [], [] => true
  | left :: lefts, right :: rights => same left right && sameAll lefts rights
  | _, _ => false

end

instance : BEq Expr where
  beq := same

mutual

/-- The number of forms on the longest way down the tree. -/
def height : Expr → Nat
  | .literal _ => 1
  | .constant _ => 1
  | .negate operand => operand.height + 1
  | .binary _ left right => 1 + max left.height right.height
  | .call _ arguments => 1 + greatestHeight arguments

def greatestHeight : List Expr → Nat
  | [] => 0
  | argument :: rest => max argument.height (greatestHeight rest)

end

end Expr

end Reckoner
