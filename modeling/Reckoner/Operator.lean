/-!
# Binary operators

The six operators that join two operands, and the characters that write them.
-/

namespace Reckoner

inductive Operator where
  | add
  | subtract
  | multiply
  | divide
  | remainder
  | power
deriving Repr, DecidableEq

namespace Operator

def symbol : Operator → Char
  | .add => '+'
  | .subtract => '-'
  | .multiply => '*'
  | .divide => '/'
  | .remainder => '%'
  | .power => '^'

def ofSymbol? : Char → Option Operator
  | '+' => some .add
  | '-' => some .subtract
  | '*' => some .multiply
  | '/' => some .divide
  | '%' => some .remainder
  | '^' => some .power
  | _ => none

def isSymbol (character : Char) : Bool :=
  (ofSymbol? character).isSome

theorem ofSymbol?_symbol (operator : Operator) :
    ofSymbol? operator.symbol = some operator := by
  cases operator <;> rfl

/-- A character writes at most one operator, and it is the operator's own. -/
theorem ofSymbol?_eq_some_iff {character : Char} {operator : Operator} :
    ofSymbol? character = some operator ↔ character = operator.symbol := by
  constructor
  · intro found
    unfold ofSymbol? at found
    split at found <;> simp_all [symbol] <;> subst found <;> rfl
  · rintro rfl
    exact ofSymbol?_symbol operator

end Operator

end Reckoner
