import Reckoner.Text.Blank
import Reckoner.Text.Casing

/-!
# Lines that are entered

A line is a command word, or an expression, which the word `details` in front of it or behind it
asks to be evaluated step by step.  Letter case does not matter.  The keyword is recognised with
the space that divides it from the expression, so `details` alone is an expression.
-/

namespace Reckoner

inductive Command where
  | quit
  | clear
  | help
deriving Repr, DecidableEq

namespace Command

def words : List (String × Command) :=
  [("quit", .quit), ("exit", .quit), ("q", .quit), ("clear", .clear), ("reset", .clear),
   ("help", .help)]

/-- The command that a line gives, compared with the lower case of the line. -/
def ofLine? (line : List Char) : Option Command :=
  words.lookup (String.ofList (Text.lowerText line))

/-- Whether a line is a command word, compared without regard to ASCII case. -/
def isWord (line : List Char) : Bool :=
  words.any fun entry => Text.equalIgnoringAsciiCase line entry.1.toList

end Command

/-- An expression to be evaluated, and whether its steps are asked for. -/
structure Request where
  detailed : Bool
  expression : List Char
deriving Repr, DecidableEq

namespace Request

def keyword : List Char :=
  ['d', 'e', 't', 'a', 'i', 'l', 's']

def ofLine (line : List Char) : Request :=
  let count := keyword.length + 1
  if Text.equalIgnoringAsciiCase (line.take count) (keyword ++ [' ']) then
    ⟨true, Text.trim (line.drop count)⟩
  else
    let split := line.length - count
    if count ≤ line.length ∧ Text.equalIgnoringAsciiCase (line.drop split) (' ' :: keyword) then
      ⟨true, Text.trim (line.take split)⟩
    else ⟨false, line⟩

end Request

end Reckoner
