import Reckoner.Panel.Help
import Reckoner.Panel.History
import Reckoner.Terminal.Widget
import Reckoner.Text.Columns

/-!
# Drawing the panel

A frame is drawn in two parts.  `Panel.settle` takes the state to what a screen of the given size
can show: the line follows its cursor, the starts of the entries are noted, and the history scrolls
to its end if a new entry asks for it.  `Panel.picture` shows the settled state and changes
nothing.

The screen has three parts, one below the other: the line in a box whose colour and title preview
the result, a row of hints, and the history in a box.  The help, or a note that the screen is too
small, takes the whole screen.
-/

namespace Reckoner

open Terminal (Alignment Area BorderSet Box Line Screen Span Style)

/-- A screen with the place of the caret. -/
structure Frame where
  screen : Screen
  caret : Option (Nat × Nat)

namespace Panel

variable [Text.Widths]

def leastWidth : Nat := 50

def leastHeight : Nat := 10

def lineHeight : Nat := 3

def fits (width height : Nat) : Bool :=
  leastWidth ≤ width && leastHeight ≤ height

def lineArea (width : Nat) : Area := ⟨0, 0, width, lineHeight⟩

def hintArea (width : Nat) : Area := ⟨0, lineHeight, width, 1⟩

def historyArea (width height : Nat) : Area :=
  ⟨0, lineHeight + 1, width, height - (lineHeight + 1)⟩

def lineWidth (width : Nat) : Nat :=
  (lineArea width).inner.width - promptMark.length

/-- The state with the history laid out for the given size; an empty history changes nothing. -/
def settleHistory (panel : Panel) (width height : Nat) : Panel :=
  if panel.session.history.isEmpty then panel
  else
    let inner := (historyArea width height).inner
    let blocks := panel.entryBlocks inner.width
    let count := (historyRows inner.width blocks).length
    { panel with
      itemStarts := startsFrom 0 blocks
      historyScroll := if panel.toBottom then count - inner.height else panel.historyScroll
      toBottom := false }

/-- The state that a screen of the given size can show. -/
def settle (panel : Panel) (width height : Nat) : Panel :=
  if panel.helpShown || !fits width height then panel
  else
    { (panel.edit (·.follow (lineWidth width))).settleHistory width height with
      listHeight := (historyArea width height).height }

/-- The colour of the line's box and its title: what entering the line would give. -/
def lineTitle (panel : Panel) : Terminal.Color × String :=
  match panel.session.preview panel.line.text with
  | none => (.darkGray, " Expression ")
  | some (.ok value) => (.green, " = " ++ Number.resultText value ++ " ")
  | some (.error error) => (.red, " " ++ error.message ++ " ")

def faint : Style := .colored .darkGray

def caretColumn (panel : Panel) (width : Nat) : Nat :=
  let before :=
    (panel.line.visible (lineWidth width)).take (panel.line.cursor - panel.line.scroll)
  (lineArea width).inner.x + promptMark.length + Text.columns before

def drawLine (panel : Panel) (screen : Screen) : Screen :=
  let area := lineArea screen.width
  let inner := area.inner
  let width := lineWidth screen.width
  let (color, title) := panel.lineTitle
  let style := Style.colored color
  let box : Box := ⟨.single, style, .plain, Span.ofText title style⟩
  let line :=
    Span.ofText promptMark (.colored .green) ::
      Highlight.spans panel.session.environment .plain (panel.line.visible width)
  let mark (shown : Bool) (x : Nat) (character : Char) (screen : Screen) : Screen :=
    if shown then screen.put x inner.y [character] faint else screen
  (box.draw screen area).writeLines inner .left [line]
    |> mark (0 < panel.line.scroll) inner.x '<'
    |> mark (panel.line.scroll + width < panel.line.characters.length)
      (inner.x + (inner.width - 1)) '>'

def keyHints : List (String × String) :=
  [("Enter", "Calculate"),
   ("↑/↓ PgUp/PgDn", "History"),
   ("Ctrl+U", "Clear"),
   ("F1", "Help"),
   ("Esc", "Quit")]

def hintLine : Line :=
  keyHints.flatMap fun (key, hint) =>
    [Span.ofText key (Style.colored .yellow).inBold, Span.ofText (" " ++ hint ++ "  ") faint]

def drawHints (screen : Screen) : Screen :=
  screen.writeLines (hintArea screen.width) .left [hintLine]

def invitation : String :=
  "Type an expression such as sqrt(16) + 2^3 and press Enter"

def drawHistory (panel : Panel) (screen : Screen) : Screen :=
  let area := historyArea screen.width screen.height
  let inner := area.inner
  let title := " History (" ++ toString panel.session.history.length ++ ") "
  let box : Box := ⟨.single, faint, .plain, Span.ofText title .plain⟩
  let screen := box.draw screen area
  if panel.session.history.isEmpty then
    (screen.restyle inner faint).writeLines inner .center [[Span.ofText invitation faint]]
  else
    let rows := historyRows inner.width (panel.entryBlocks inner.width)
    let selectedStyle : Style := { Style.plain with background := some .darkGray }.inBold
    screen.writeList inner rows panel.historyScroll panel.itemStarts[panel.selected]?
      selectedStyle

def mainPicture (panel : Panel) (width height : Nat) : Frame where
  screen := panel.drawHistory (drawHints (panel.drawLine (Screen.blank width height)))
  caret := some (panel.caretColumn width, (lineArea width).inner.y)

def tooSmallPicture (width height : Nat) : Frame :=
  let size (width height : Nat) : String := toString width ++ "x" ++ toString height
  let note := "Need at least " ++ size leastWidth leastHeight ++ ", have " ++ size width height
  let lines : List Line :=
    [[Span.ofText note (Style.colored .red).inBold], [],
     [Span.ofText "Enlarge the window to continue" (.colored .yellow)]]
  let box : Box :=
    ⟨.single, .colored .red, .plain, Span.ofText " exprcalc " .plain⟩
  let screen := Screen.blank width height
  let area := screen.area
  let rows := Terminal.filledRows area.inner.width lines
  ⟨(box.draw screen area).putRows area.inner .center rows, none⟩

/-- The number of rows of help that a screen leaves out at the top: the terminal counts them in 16
bits. -/
def helpRowsSkipped (panel : Panel) : Nat :=
  panel.helpScroll % Nat.pow 2 16

def helpPicture (panel : Panel) (width height : Nat) : Frame :=
  let box : Box :=
    ⟨.double, .colored .yellow, { Style.plain with background := some .black },
      Span.ofText " exprcalc Help " .plain⟩
  let screen := Screen.blank width height
  let area := screen.area
  let rows := Terminal.filledRows area.inner.width (Help.lines panel.session.environment)
  ⟨(box.draw screen area).putRows area.inner .left (rows.drop panel.helpRowsSkipped), none⟩

def picture (panel : Panel) (width height : Nat) : Frame :=
  if panel.helpShown then panel.helpPicture width height
  else if fits width height then panel.mainPicture width height
  else tooSmallPicture width height

def draw (panel : Panel) (width height : Nat) : Panel × Frame :=
  let settled := panel.settle width height
  (settled, settled.picture width height)

end Panel

end Reckoner
