import Reckoner.Calculator
import Reckoner.Request

/-!
# Sessions

A session keeps the list of past evaluations and binds the last result under the name `ans`.  The
answer is always bound on top of the environment with which the session began, so nothing of an
earlier answer is left, and clearing the session takes it back to its beginning.

A line can be previewed: the preview has the result that submitting the line would give, and
leaves the session as it is.
-/

namespace Reckoner

structure Entry where
  input : String
  result : Except CalcError Float
  steps : List Step
  detailed : Bool
  nanoseconds : Nat

inductive Outcome where
  | ignored
  | quit
  | cleared
  | help
  | evaluated
deriving Repr, DecidableEq

structure Session where
  calculator : Calculator
  /-- The environment without an answer. -/
  base : Environment
  /-- The past evaluations, oldest first. -/
  history : List Entry

namespace Session

def answerName : String := "ans"

def start (calculator : Calculator) : Session where
  calculator := calculator
  base := calculator.environment
  history := []

def environment (session : Session) : Environment :=
  session.calculator.environment

def clear (session : Session) : Session :=
  { session with
    calculator := { session.calculator with environment := session.base }
    history := [] }

def bindAnswer (session : Session) (value : Float) : Session :=
  { session with
    calculator :=
      { session.calculator with environment := session.base.withConstant answerName value } }

/-- Evaluates a request and adds it to the history.  The entry has no duration yet. -/
def evaluate (session : Session) (request : Request) : Session :=
  let input := String.ofList request.expression
  let (result, trace) := session.calculator.evaluateTraced (.start request.detailed) input
  let answered :=
    match result with
    | .ok value => session.bindAnswer value
    | .error _ => session
  { answered with
    history := session.history ++ [⟨input, result, trace.steps, request.detailed, 0⟩] }

def submit (session : Session) (line : String) : Outcome × Session :=
  let line := Text.trim line.toList
  if line.isEmpty then (.ignored, session)
  else
    match Command.ofLine? line with
    | some .quit => (.quit, session)
    | some .clear => (.cleared, session.clear)
    | some .help => (.help, session)
    | none => (.evaluated, session.evaluate (Request.ofLine line))

/-- The result that a line would have; commands and blank lines have none. -/
def preview (session : Session) (line : String) : Option (Except CalcError Float) :=
  let line := Text.trim line.toList
  if line.isEmpty || Command.isWord line then none
  else some (session.calculator.evaluate (String.ofList (Request.ofLine line).expression))

/-- A text in canonical form: as its expression is written, or else with single spaces. -/
def pretty (session : Session) (text : String) : String :=
  match session.calculator.read text with
  | .ok expression => expression.text
  | .error _ => String.ofList (Text.unwords (Text.words text.toList))

def timeLast (session : Session) (nanoseconds : Nat) : Session :=
  { session with
    history := session.history.modify (session.history.length - 1)
      fun entry => { entry with nanoseconds := nanoseconds } }

end Session

end Reckoner
