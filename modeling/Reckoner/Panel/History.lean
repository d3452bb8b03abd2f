import Reckoner.Highlight
import Reckoner.Panel
import Reckoner.Report
import Reckoner.Text.Wrapping

/-!
# The rows of the history

An entry shows its expression with the result behind its first line, and its steps if they were
asked for.  Entries are divided by a rule.  Each entry knows the row on which it starts, so that
the selected one can be kept in sight.
-/

namespace Reckoner

namespace Panel

open Terminal (Line Span Style)

variable [Text.Widths]

def promptMark : String := "> "

/-- The columns kept free beside an expression. -/
def margin : Nat := 4

/-- The columns kept free beside the further lines of an entry. -/
def indent : Nat := 6

def expressionLines (environment : Environment) (style : Style) (width : Nat) (text : String) :
    List Line :=
  (Text.wrap width text.toList).mapIdx fun index line =>
    Span.ofText (if index = 0 then promptMark else "  ") (.colored .green) ::
      Highlight.spans environment style line

def resultSpans (result : Except CalcError Float) : Line :=
  let color :=
    match result with
    | .ok _ => Terminal.Color.lightMagenta
    | .error _ => Terminal.Color.red
  [Span.ofText " = " (.colored .gray),
   Span.ofText (Report.resultText result) (Style.colored color).inBold]

def appendToFirst (spans : Line) : List Line → List Line
  | [] => []
  | first :: rest => (first ++ spans) :: rest

def indentedLines (width : Nat) (color : Terminal.Color) (text : String) : List Line :=
  (Text.wrap (width - indent) text.toList).mapIdx fun index line =>
    let lead := if index = 0 then "    - " else "      "
    [⟨lead.toList ++ line, .colored color⟩]

/-- The lines below the expression of a detailed entry: its steps, its error, its duration. -/
def detailLines (width : Nat) (entry : Entry) : List Line :=
  let error :=
    match entry.result with
    | .ok _ => []
    | .error _ => indentedLines width .red (Report.resultText entry.result)
  (Report.stepTexts entry.steps).flatMap (indentedLines width .darkGray) ++ error ++
    indentedLines width .magenta (Report.timeText entry.nanoseconds)

def entryRows (session : Session) (width : Nat) (selected : Bool) (entry : Entry) : List Line :=
  let style := Style.colored (if selected then .yellow else .cyan)
  let expression :=
    expressionLines session.environment style width (session.pretty entry.input)
  appendToFirst (resultSpans entry.result) expression ++
    if entry.detailed then detailLines width entry else []

def ruleRow (width : Nat) : Line :=
  [⟨List.replicate width '─', .colored .darkGray⟩]

def entryBlocks (panel : Panel) (width : Nat) : List (List Line) :=
  panel.session.history.mapIdx fun index entry =>
    entryRows panel.session (width - margin) (index == panel.selected) entry

/-- All rows of the history, with a rule between two entries. -/
def historyRows (width : Nat) (blocks : List (List Line)) : List Line :=
  [ruleRow width].intercalate blocks

/-- The rows on which the entries start, the first of them on row `start`. -/
def startsFrom (start : Nat) : List (List Line) → List Nat
  | [] => []
  | block :: rest => start :: startsFrom (start + block.length + 1) rest

end Panel

end Reckoner
