import Reckoner.Builtin
import Reckoner.Expr.Evaluation
import Reckoner.Expr.OfTokens
import Reckoner.Expr.Writing
import Reckoner.Token.Lexing

/-!
# The calculator

A calculator takes a text through all stages: tokens, expression, value.  It holds an environment
and the depth to which expressions may be nested, and nothing else, so one calculator can evaluate
any number of texts.
-/

namespace Reckoner

/-- Why a text has no value: the first stage that failed says. -/
inductive CalcError where
  | lex (error : LexError)
  | parse (error : ParseError)
  | eval (error : EvalError)
deriving Repr, DecidableEq

namespace CalcError

def message : CalcError → String
  | .lex error => error.message
  | .parse error => error.message
  | .eval error => error.message

end CalcError

/-- An environment and a limit for the nesting of expressions. -/
structure Calculator where
  environment : Environment
  depth : Nat

namespace Calculator

def standard : Calculator where
  environment := Builtin.environment
  depth := Limits.standard.depth

def limits (calculator : Calculator) : Limits :=
  Limits.standard.withDepth calculator.depth

def read (calculator : Calculator) (text : String) : Except CalcError Expr :=
  match Token.readAll text with
  | .error error => .error (.lex error)
  | .ok tokens =>
    match Expr.ofTokens calculator.limits tokens with
    | .error error => .error (.parse error)
    | .ok expression => .ok expression

/-- The value of a text, with the trace extended by its steps. -/
def evaluateTraced (calculator : Calculator) (trace : Trace) (text : String) :
    Except CalcError Float × Trace :=
  match calculator.read text with
  | .error error => (.error error, trace)
  | .ok expression =>
    match expression.evaluateTraced calculator.environment trace with
    | (.error error, trace) => (.error (.eval error), trace)
    | (.ok value, trace) => (.ok value, trace)

def evaluate (calculator : Calculator) (text : String) : Except CalcError Float :=
  (calculator.evaluateTraced (.start false) text).1

end Calculator

def evaluateText (text : String) : Except CalcError Float :=
  Calculator.standard.evaluate text

end Reckoner
