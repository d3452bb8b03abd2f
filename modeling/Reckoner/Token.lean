import Reckoner.Number.Shortest
import Reckoner.Operator

/-!
# Tokens

An expression is read as a list of tokens, each with the position of its first character, counted
in characters from zero.  An operator token can hold any character; the lexer only makes those
that write an operator.
-/

namespace Reckoner

inductive TokenKind where
  | number (value : Float)
  | identifier (name : String)
  | operator (symbol : Char)
  | leftParenthesis
  | rightParenthesis
  | comma
  | finish
deriving Repr, DecidableEq

structure Token where
  kind : TokenKind
  position : Nat
deriving Repr, DecidableEq

namespace TokenKind

/-- How a token is named in a message. -/
def description : TokenKind → String
  | .number value => "number " ++ Number.text value
  | .identifier name => "identifier '" ++ name ++ "'"
  | .operator symbol => "operator '" ++ symbol.toString ++ "'"
  | .leftParenthesis => "'('"
  | .rightParenthesis => "')'"
  | .comma => "','"
  | .finish => "end of input"

end TokenKind

end Reckoner
