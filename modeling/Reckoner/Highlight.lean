import Reckoner.Environment
import Reckoner.Operator
import Reckoner.Terminal.Style
import Reckoner.Text.Letter

/-!
# Colouring an expression

A text is cut into spans: runs of name characters, runs of digits and points, and single
characters.  Operators, numbers and the names that are bound have styles of their own; all else is
written in a base style, and a space in none.  The spans together are the text.
-/

namespace Reckoner

namespace Highlight

open Terminal (Span Style)

/-- The runs of which a span can consist. -/
inductive Run where
  | name
  | number
deriving Repr, DecidableEq

def nameStyle : Style :=
  (Style.colored .lightBlue).inBold

def operatorStyle : Style :=
  (Style.colored .yellow).inBold

def numberStyle : Style :=
  Style.colored .lightGreen

/-- The run to which a character belongs, behind the run before it. -/
def runOf (before : Option Run) (character : Char) : Option Run :=
  if Text.isLetter character || character == '_' ||
      (before == some .name && character.isDigit) then
    some .name
  else if character.isDigit || character == '.' then some .number
  else none

def runStyle (environment : Environment) (base : Style) (run : Option Run)
    (characters : List Char) : Style :=
  match run with
  | some .name =>
    if environment.contains (String.ofList characters) then nameStyle else base
  | some .number => numberStyle
  | none => base

def runSpan (environment : Environment) (base : Style) (run : Option Run)
    (characters : List Char) : List Span :=
  if characters.isEmpty then []
  else [⟨characters, runStyle environment base run characters⟩]

def singleSpan (base : Style) (character : Char) : Span :=
  if Operator.isSymbol character then ⟨[character], operatorStyle⟩
  else if character = ' ' then ⟨[character], .plain⟩
  else ⟨[character], base⟩

/-- The spans of the characters behind a run that is not finished, its characters in reverse
order. -/
def spansFrom (environment : Environment) (base : Style) (run : Option Run)
    (current : List Char) : List Char → List Span
  | [] => runSpan environment base run current.reverse
  | character :: rest =>
    let next := runOf run character
    if next.isSome && next == run then
      spansFrom environment base run (character :: current) rest
    else
      let finished := runSpan environment base run current.reverse
      match next with
      | some _ => finished ++ spansFrom environment base next [character] rest
      | none =>
        finished ++ singleSpan base character :: spansFrom environment base none [] rest

def spans (environment : Environment) (base : Style) (characters : List Char) : List Span :=
  spansFrom environment base none [] characters

end Highlight

end Reckoner
