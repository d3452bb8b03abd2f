import Reckoner.Expr
import Reckoner.Number.Shortest

/-!
# Writing an expression

An expression is written with its operators between their operands, and with the parentheses that
the grammar needs and no others.  Sums, products and remainders group to the left, so their right
operand is enclosed also at the same level; powers group to the right and take a signed exponent,
but their base must be an atom.
-/

namespace Reckoner

namespace Operator

/-- Whether a left operand of the given level has to be enclosed. -/
def enclosesLeft (operator : Operator) (operand : Level) : Bool :=
  match operator with
  | .power => operand < .atom
  | _ => operand < operator.level

def enclosesRight (operator : Operator) (operand : Level) : Bool :=
  match operator with
  | .power => operand < .negation
  | _ => operand ≤ operator.level

end Operator

namespace Expr

/-- The characters, in parentheses if asked for. -/
def enclose (enclosed : Bool) (characters : List Char) : List Char :=
  if enclosed then '(' :: characters ++ [')'] else characters

mutual

def characters : Expr → List Char
  | .literal value => Number.characters value
  | .constant name => name.toList
  | .negate operand => '-' :: enclose (operand.level < .negation) operand.characters
  | .binary operator left right =>
    enclose (operator.enclosesLeft left.level) left.characters ++
      ' ' :: operator.symbol :: ' ' ::
        enclose (operator.enclosesRight right.level) right.characters
  | .call function arguments => function.toList ++ '(' :: argumentCharacters arguments ++ [')']

def argumentCharacters : List Expr → List Char
  | [] => []
  | [argument] => argument.characters
  | argument :: rest => argument.characters ++ ',' :: ' ' :: argumentCharacters rest

end

def text (expression : Expr) : String :=
  String.ofList expression.characters

end Expr

end Reckoner
