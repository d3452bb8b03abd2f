import Reckoner.Environment
import Reckoner.Expr
import Reckoner.Number.Shortest
import Reckoner.Number.Whole

/-!
# Evaluating an expression

The value of an expression in an environment, or the one reason why it has none.  Operands are
evaluated from left to right, and the name and the number of arguments of a call are checked before
its arguments.  Every value handed on is finite.

A trace collects the operations that have been carried out, each with its result, if it was asked
for details.  An operation is recorded before its result is found to be infinite.
-/

namespace Reckoner

inductive EvalError where
  | unknownIdentifier (name : String)
  /-- A function without arguments. -/
  | notAConstant (name : String)
  /-- A constant with arguments. -/
  | notCallable (name : String)
  | arityMismatch (name : String) (expected : List Nat) (found : Nat)
  | divisionByZero
  | domain (function : String) (refusal : Refusal)
  /-- A negative base with a fractional exponent. -/
  | complexResult (base exponent : Float)
  | nonFiniteResult
deriving Repr, DecidableEq

namespace EvalError

def message : EvalError → String
  | .unknownIdentifier name => "Unknown identifier '" ++ name ++ "'"
  | .notAConstant name => "'" ++ name ++ "' is a function, call it as " ++ name ++ "(...)"
  | .notCallable name => "'" ++ name ++ "' is a constant and cannot be called"
  | .arityMismatch name expected found =>
    name ++ "() takes " ++ " or ".intercalate (expected.map toString) ++ " argument(s), got " ++
      toString found
  | .divisionByZero => "Division by zero"
  | .domain function refusal => function ++ " domain: " ++ refusal.message
  | .complexResult base exponent =>
    Number.text base ++ " ^ " ++ Number.text exponent ++ " has no real value"
  | .nonFiniteResult => "Result is not a finite number"

end EvalError

structure Step where
  operation : String
  result : Float
deriving Repr, DecidableEq

structure Trace where
  detailed : Bool
  steps : List Step
deriving Repr, DecidableEq

namespace Trace

def start (detailed : Bool) : Trace where
  detailed := detailed
  steps := []

/-- Adds a step, if steps are kept. -/
@[inline]
def record (trace : Trace) (operation : List Char) (result : Float) : Trace :=
  if trace.detailed then
    { trace with steps := trace.steps ++ [⟨String.ofList operation, result⟩] }
  else trace

end Trace

namespace Operator

def apply (operator : Operator) (left right : Float) : Except EvalError Float :=
  match operator with
  | .add => .ok (left + right)
  | .subtract => .ok (left - right)
  | .multiply => .ok (left * right)
  | .divide => if right == 0 then .error .divisionByZero else .ok (left / right)
  | .remainder =>
    if right == 0 then .error .divisionByZero else .ok (Number.remainder left right)
  | .power =>
    if left < 0 ∧ !Number.isWhole right then .error (.complexResult left right)
    else .ok (left.pow right)

def stepCharacters (operator : Operator) (left right : Float) : List Char :=
  Number.characters left ++ ' ' :: operator.symbol :: ' ' :: Number.characters right

end Operator

namespace Expr

def callCharacters (function : String) (values : List Float) : List Char :=
  function.toList ++ '(' :: [',', ' '].intercalate (values.map Number.characters) ++ [')']

def finite (value : Float) : Except EvalError Float :=
  if value.isFinite then .ok value else .error .nonFiniteResult

def overload (environment : Environment) (function : String) (count : Nat) :
    Except EvalError Overload :=
  match environment.find? function with
  | none => .error (.unknownIdentifier function)
  | some (.constant _) => .error (.notCallable function)
  | some (.function overloads) =>
    match overloads.find? (·.arity == count) with
    | some overload => .ok overload
    | none => .error (.arityMismatch function (overloads.map Overload.arity) count)

mutual

/-- The value of an expression, with the trace extended by its steps. -/
def evaluateTraced (environment : Environment) (trace : Trace) :
    Expr → Except EvalError Float × Trace
  | .literal value => (finite value, trace)
  | .constant name =>
    match environment.find? name with
    | some (.constant value) => (finite value, trace.record name.toList value)
    | some (.function _) => (.error (.notAConstant name), trace)
    | none => (.error (.unknownIdentifier name), trace)
  | .negate operand =>
    match evaluateTraced environment trace operand with
    | (.error error, trace) => (.error error, trace)
    | (.ok value, trace) =>
      (finite (-value), trace.record ('-' :: Number.characters value) (-value))
  | .binary operator left right =>
    match evaluateTraced environment trace left with
    | (.error error, trace) => (.error error, trace)
    | (.ok left, trace) =>
      match evaluateTraced environment trace right with
      | (.error error, trace) => (.error error, trace)
      | (.ok right, trace) =>
        match operator.apply left right with
        | .error error => (.error error, trace)
        | .ok result =>
          (finite result, trace.record (operator.stepCharacters left right) result)
  | .call function arguments =>
    match overload environment function arguments.length with
    | .error error => (.error error, trace)
    | .ok overload =>
      match evaluateAll environment trace arguments with
      | (.error error, trace) => (.error error, trace)
      | (.ok values, trace) =>
        match overload.apply values with
        | .error refusal => (.error (.domain function refusal), trace)
        | .ok result => (finite result, trace.record (callCharacters function values) result)

def evaluateAll (environment : Environment) (trace : Trace) :
    List Expr → Except EvalError (List Float) × Trace
  | [] => (.ok [], trace)
  | argument :: rest =>
    match evaluateTraced environment trace argument with
    | (.error error, trace) => (.error error, trace)
    | (.ok value, trace) =>
      match evaluateAll environment trace rest with
      | (.error error, trace) => (.error error, trace)
      | (.ok values, trace) => (.ok (value :: values), trace)

end

def evaluate (environment : Environment) (expression : Expr) : Except EvalError Float :=
  (evaluateTraced environment (.start false) expression).1

end Expr

end Reckoner
