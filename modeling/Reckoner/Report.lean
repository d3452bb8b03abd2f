import Reckoner.Number.Places
import Reckoner.Session

/-!
# Reports

The lines in which results, steps and durations are shown to the user.
-/

namespace Reckoner

namespace Report

/-- The text of a result: a number, or the error behind a mark. -/
def resultText : Except CalcError Float → String
  | .ok value => Number.resultText value
  | .error error => "Error: " ++ error.message

/-- A step with its number, counted from one. -/
def stepText (index : Nat) (step : Step) : String :=
  "Step " ++ toString (index + 1) ++ ": " ++ step.operation ++ " = " ++
    Number.resultText step.result

def stepTexts (steps : List Step) : List String :=
  steps.mapIdx stepText

def milliseconds (nanoseconds : Nat) : Float :=
  let second := 1000000000
  (Float.ofNat (nanoseconds / second) +
    Float.ofNat (nanoseconds % second) / Float.ofNat second) * 1000

/-- A duration, with six places. -/
def timeText (nanoseconds : Nat) : String :=
  "Time: " ++ String.ofList (Number.fixedCharacters 6 (milliseconds nanoseconds)) ++ " ms"

def namesText (environment : Environment) : String :=
  ", ".intercalate environment.names

def entryText (session : Session) (entry : Entry) : String :=
  "  " ++ session.pretty entry.input ++ " = " ++ resultText entry.result

def plainLines (session : Session) (entry : Entry) : List String :=
  let details :=
    if entry.detailed then
      (stepTexts entry.steps).map ("  " ++ ·) ++ ["  " ++ timeText entry.nanoseconds]
    else []
  entryText session entry :: details

/-- The text that reports an evaluation in a raw terminal, where a line needs a carriage return to
begin at the left. -/
def rawText (session : Session) (entry : Entry) : String :=
  let lineEnd := "\r\n"
  let details :=
    if entry.detailed && !entry.steps.isEmpty then
      lineEnd ++ "  Step-by-step evaluation:" ++ lineEnd ++
        String.join ((stepTexts entry.steps).map fun step => "  " ++ step ++ lineEnd) ++
        "  " ++ timeText entry.nanoseconds ++ lineEnd
    else ""
  lineEnd ++ entryText session entry ++ lineEnd ++ details ++ lineEnd

end Report

end Reckoner
