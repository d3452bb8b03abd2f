import Reckoner.Expr
import Reckoner.Token

/-!
# Building an expression from tokens

The grammar, loosest form first:

* a sum joins products with `+` and `-`, a product joins signed operands with `*`, `/` and `%`,
  both grouping to the left;
* a signed operand is a power behind any number of signs, of which only `-` leaves a trace;
* a power is a primary, or a primary raised to a signed operand;
* a primary is a number, a name, a call, or a sum in parentheses.

Two limits bound the work.  Each sign, exponent, argument and parenthesised sum opens one more
level of signed operands, and `Limits.depth` levels may be open at once; a tree may be
`Limits.height` high.  The state counts the levels that are open.  No reader of a signed operand
can call itself more often than levels may be open, so it recurs on that number; the readers of
the other forms take the reader of the next level as their parameter.

What follows the first end token never matters.  A list without an end token is read as if one
stood behind its last token.
-/

namespace Reckoner

inductive ParseError where
  | unexpectedToken (found : TokenKind) (position : Nat)
  | emptyExpression (position : Nat)
  | unmatchedParenthesis (position : Nat)
  /-- More open levels, or a higher tree, than the limit allows. -/
  | tooDeep (limit : Nat)
deriving Repr, DecidableEq

namespace ParseError

def message : ParseError → String
  | .unexpectedToken found position =>
    "Unexpected " ++ found.description ++ " at position " ++ toString position
  | .emptyExpression position => "Empty expression at position " ++ toString position
  | .unmatchedParenthesis position => "Unmatched parenthesis at position " ++ toString position
  | .tooDeep limit => "Expression is nested too deeply (limit " ++ toString limit ++ ")"

end ParseError

structure Limits where
  /-- How many levels of signed operands may be open at once. -/
  depth : Nat
  /-- How high a tree may become. -/
  height : Nat
deriving Repr, DecidableEq

namespace Limits

def standard : Limits where
  depth := 128
  height := 1024

/-- Limits with another depth; at least one level is always allowed. -/
def withDepth (limits : Limits) (depth : Nat) : Limits :=
  { limits with depth := max 1 depth }

def withHeight (limits : Limits) (height : Nat) : Limits :=
  { limits with height := max 1 height }

end Limits

structure Measured where
  expression : Expr
  height : Nat
deriving Repr

namespace Reader

/-- What stays the same while a list of tokens is read: the limits, and the position of the end of
the input. -/
structure Context where
  limits : Limits
  finish : Nat
deriving Repr, DecidableEq

/-- What changes while a list of tokens is read. -/
structure State where
  /-- The tokens in front of the end that have not been read. -/
  rest : List Token
  /-- The positions of the open parentheses, the innermost first. -/
  groups : List Nat
  /-- How many levels of signed operands are open. -/
  nesting : Nat
  /-- The most levels that have been open at once so far. -/
  deepest : Nat
deriving Repr, DecidableEq

end Reader

/-- A reader of tokens.  The state is known also where an error has ended the reading. -/
abbrev Reader (α : Type) : Type :=
  EStateM ParseError Reader.State α

namespace Reader

def peek (context : Context) : Reader Token := do
  match (← get).rest with
  | [] => pure ⟨.finish, context.finish⟩
  | token :: _ => pure token

/-- Reads the next token; the end stays in place. -/
def advance (context : Context) : Reader Token := do
  match (← get).rest with
  | [] => pure ⟨.finish, context.finish⟩
  | token :: rest =>
    modify fun state => { state with rest := rest }
    pure token

/-- Reads an operator if one of the given characters comes next. -/
def readOperator (context : Context) (symbols : List Char) : Reader (Option Operator) := do
  match (← peek context).kind with
  | .operator symbol =>
    if symbols.contains symbol then
      let _ ← advance context
      pure (Operator.ofSymbol? symbol)
    else pure none
  | _ => pure none

def unexpected (token : Token) : ParseError :=
  .unexpectedToken token.kind token.position

/-- An inner node of the tree, unless it is too high. -/
def checkHeight (context : Context) (node : Measured) : Reader Measured :=
  if context.limits.height < node.height then throw (.tooDeep context.limits.height)
  else pure node

def join (context : Context) (operator : Operator) (left right : Measured) : Reader Measured :=
  checkHeight context
    ⟨.binary operator left.expression right.expression, 1 + max left.height right.height⟩

/-- Goes on with a chain of operands as long as one of the operators follows; at most `steps`
times. -/
def chainFrom (context : Context) (symbols : List Char) (operand : Reader Measured) :
    (steps : Nat) → Measured → Reader Measured
  | 0, left => pure left
  | steps + 1, left => do
    match ← readOperator context symbols with
    | none => pure left
    | some operator =>
      let right ← operand
      let joined ← join context operator left right
      chainFrom context symbols operand steps joined

/-- A chain of operands that groups to the left.  Every step reads a token, so the number of
tokens bounds the steps. -/
def chain (context : Context) (symbols : List Char) (operand : Reader Measured) :
    Reader Measured := do
  let first ← operand
  chainFrom context symbols operand (← get).rest.length first

def product (context : Context) (signed : Reader Measured) : Reader Measured :=
  chain context ['*', '/', '%'] signed

def sum (context : Context) (signed : Reader Measured) : Reader Measured :=
  chain context ['+', '-'] (product context signed)

def openGroup (position : Nat) : Reader Unit :=
  modify fun state => { state with groups := position :: state.groups }

def closeGroup (context : Context) : Reader Unit := do
  let token ← peek context
  match token.kind with
  | .rightParenthesis =>
    let _ ← advance context
    modify fun state => { state with groups := state.groups.tail }
  | .finish => throw (.unmatchedParenthesis ((← get).groups.headD token.position))
  | _ => throw (unexpected token)

/-- Goes on with the arguments of a call behind those already read, the last first; at most
`steps` further ones. -/
def argumentsFrom (context : Context) (signed : Reader Measured) :
    (steps : Nat) → List Measured → Reader (List Measured)
  | 0, read => do
    closeGroup context
    pure read.reverse
  | steps + 1, read => do
    let argument ← sum context signed
    if (← peek context).kind = .comma then
      let _ ← advance context
      argumentsFrom context signed steps (argument :: read)
    else
      closeGroup context
      pure (argument :: read).reverse

/-- The arguments of a call, up to and with the closing parenthesis. -/
def arguments (context : Context) (signed : Reader Measured) : Reader (List Measured) := do
  if (← peek context).kind = .rightParenthesis then
    closeGroup context
    pure []
  else argumentsFrom context signed ((← get).rest.length + 1) []

def greatestHeight (nodes : List Measured) : Nat :=
  nodes.foldr (fun node height => max node.height height) 0

def primary (context : Context) (signed : Reader Measured) : Reader Measured := do
  let token ← advance context
  match token.kind with
  | .number value => pure ⟨.literal value, 1⟩
  | .identifier name =>
    if (← peek context).kind = .leftParenthesis then
      let opening ← advance context
      openGroup opening.position
      let nodes ← arguments context signed
      checkHeight context
        ⟨.call name (nodes.map Measured.expression), 1 + greatestHeight nodes⟩
    else pure ⟨.constant name, 1⟩
  | .leftParenthesis =>
    openGroup token.position
    let next ← peek context
    if next.kind = .rightParenthesis then throw (.emptyExpression next.position)
    else
      let inner ← sum context signed
      closeGroup context
      pure inner
  | .rightParenthesis =>
    if (← get).groups.isEmpty then throw (.unmatchedParenthesis token.position)
    else throw (.emptyExpression token.position)
  | .finish =>
    match (← get).groups with
    | [] => throw (unexpected token)
    | position :: _ => throw (.unmatchedParenthesis position)
  | _ => throw (unexpected token)

def power (context : Context) (signed : Reader Measured) : Reader Measured := do
  let base ← primary context signed
  if (← peek context).kind = .operator '^' then
    let _ ← advance context
    let exponent ← signed
    join context .power base exponent
  else pure base

/-- Opens one more level while the reader is at work, unless too many are open.  The level is
closed again also where an error ends the reading. -/
def nested (context : Context) (reader : Reader α) : Reader α := fun state =>
  if context.limits.depth ≤ state.nesting then .error (.tooDeep context.limits.depth) state
  else
    let nesting := state.nesting + 1
    match reader { state with nesting := nesting, deepest := max state.deepest nesting } with
    | .ok value state => .ok value { state with nesting := state.nesting - 1 }
    | .error error state => .error error { state with nesting := state.nesting - 1 }

/-- A signed operand, inside which the reader calls itself fewer than `calls` times. -/
def signed (context : Context) : (calls : Nat) → Reader Measured
  | 0 => throw (.tooDeep context.limits.depth)
  | calls + 1 => nested context do
    match (← peek context).kind with
    | .operator '-' =>
      let _ ← advance context
      let operand ← signed context calls
      checkHeight context ⟨.negate operand.expression, operand.height + 1⟩
    | .operator '+' =>
      let _ ← advance context
      signed context calls
    | _ => power context (signed context calls)

def whole (context : Context) : Reader Expr := do
  let first ← peek context
  if first.kind = .finish then throw (.emptyExpression first.position)
  else
    let node ← sum context (signed context context.limits.depth)
    let token ← peek context
    match token.kind with
    | .finish => pure node.expression
    | .rightParenthesis => throw (.unmatchedParenthesis token.position)
    | _ => throw (unexpected token)

end Reader

def Token.isFinish (token : Token) : Bool :=
  match token.kind with
  | .finish => true
  | _ => false

/-- Where the input of a list of tokens ends: at its first end token, or else one position behind
its last token. -/
def Token.finishPosition (tokens : List Token) : Nat :=
  match tokens.find? Token.isFinish with
  | some token => token.position
  | none =>
    match tokens.getLast? with
    | some token => token.position + 1
    | none => 0

namespace Reader

def Context.ofTokens (limits : Limits) (tokens : List Token) : Context where
  limits := limits
  finish := Token.finishPosition tokens

def State.ofTokens (tokens : List Token) : State where
  rest := tokens.takeWhile (!·.isFinish)
  groups := []
  nesting := 0
  deepest := 0

end Reader

namespace Expr

/-- Reads a list of tokens to its end. -/
def reading (limits : Limits) (tokens : List Token) :
    EStateM.Result ParseError Reader.State Expr :=
  (Reader.whole (.ofTokens limits tokens)).run (.ofTokens tokens)

def ofTokens (limits : Limits) (tokens : List Token) : Except ParseError Expr :=
  match reading limits tokens with
  | .ok expression _ => .ok expression
  | .error error _ => .error error

end Expr

end Reckoner
