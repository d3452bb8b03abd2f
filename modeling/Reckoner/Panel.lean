import Reckoner.Panel.InputLine
import Reckoner.Session

/-!
# The panel

The full-screen calculator: a session, the line being typed, the entry of the history that is
selected, and the help that may cover it all.  Keys and the mouse wheel take one state to the
next; drawing only moves what is in sight.
-/

namespace Reckoner

inductive Key where
  | character (character : Char)
  | enter
  | escape
  | backspace
  | delete
  | left
  | right
  | up
  | down
  | home
  | last
  | pageUp
  | pageDown
  | function (number : Nat)
  | other
deriving Repr, DecidableEq

structure Modifiers where
  control : Bool
  alt : Bool
  shift : Bool
deriving Repr, DecidableEq

def Modifiers.none : Modifiers where
  control := false
  alt := false
  shift := false

structure Panel where
  session : Session
  line : InputLine
  selected : Nat
  leaving : Bool
  helpShown : Bool
  /-- The rows of the help scrolled out of sight. -/
  helpScroll : Nat
  listHeight : Nat
  /-- The row on which each entry of the history starts. -/
  itemStarts : List Nat
  /-- The rows of the history scrolled out of sight. -/
  historyScroll : Nat
  /-- Whether the next drawing scrolls to the end of the history. -/
  toBottom : Bool

namespace Panel

def wheelRows : Nat := 3

def helpPage : Nat := 10

/-- The most rows that can be scrolled out of sight: they are counted in 64 bits. -/
def scrollLimit : Nat := Nat.pow 2 64 - 1

def scrolledDown (scroll rows : Nat) : Nat :=
  min (scroll + rows) scrollLimit

def start (session : Session) : Panel where
  session := session
  line := .empty
  selected := 0
  leaving := false
  helpShown := false
  helpScroll := 0
  listHeight := 5
  itemStarts := []
  historyScroll := 0
  toBottom := false

def clearLine (panel : Panel) : Panel :=
  { panel with line := .empty }

def openHelp (panel : Panel) : Panel :=
  { panel with helpShown := true, helpScroll := 0 }

def closeHelp (panel : Panel) : Panel :=
  { panel with helpShown := false, helpScroll := 0 }

/-- Submits the line.  A new entry is selected, and the next drawing shows it. -/
def submit (panel : Panel) : Panel :=
  let (outcome, session) := panel.session.submit panel.line.text
  let panel := { panel with session := session }
  match outcome with
  | .ignored => panel
  | .quit => { panel with leaving := true }
  | .cleared => { panel with selected := 0, historyScroll := 0 }.clearLine
  | .help => panel.openHelp.clearLine
  | .evaluated =>
    { panel with selected := session.history.length - 1, toBottom := true }.clearLine

/-- Selects an entry of the history and puts the given characters into the line. -/
def select (panel : Panel) (selected : Nat) (characters : List Char) : Panel :=
  { panel with
    selected := selected
    line := .ofCharacters characters
    toBottom := false }

def previousEntry (panel : Panel) : Panel :=
  let selected := panel.selected - 1
  panel.select selected ((panel.session.history[selected]?).elim [] (·.input.toList))

def nextEntry (panel : Panel) : Panel :=
  let selected :=
    if panel.selected < panel.session.history.length - 1 then panel.selected + 1
    else panel.selected
  panel.select selected ((panel.session.history[selected]?).elim [] (·.input.toList))

/-- Selects the entry a page before the selected one, and puts it into the line; without a history
the line keeps its characters. -/
def previousPage (panel : Panel) : Panel :=
  let selected := panel.selected - (panel.listHeight - 1)
  panel.select selected
    ((panel.session.history[selected]?).elim panel.line.characters (·.input.toList))

def nextPage (panel : Panel) : Panel :=
  let selected :=
    min (panel.selected + (panel.listHeight - 1)) (panel.session.history.length - 1)
  panel.select selected
    ((panel.session.history[selected]?).elim panel.line.characters (·.input.toList))

def edit (panel : Panel) (change : InputLine → InputLine) : Panel :=
  { panel with line := change panel.line }

def helpKey (panel : Panel) : Key → Panel
  | .down => { panel with helpScroll := scrolledDown panel.helpScroll 1 }
  | .up => { panel with helpScroll := panel.helpScroll - 1 }
  | .pageDown => { panel with helpScroll := scrolledDown panel.helpScroll helpPage }
  | .pageUp => { panel with helpScroll := panel.helpScroll - helpPage }
  | .escape => panel.closeHelp
  | .function 1 => panel.closeHelp
  | .character 'q' => panel.closeHelp
  | _ => panel

def characterKey (panel : Panel) (modifiers : Modifiers) (character : Char) : Panel :=
  if modifiers.control then
    if character = 'u' ∨ character = 'U' then panel.clearLine
    else if character = 'c' ∨ character = 'd' then { panel with leaving := true }
    else panel
  else if modifiers.alt then panel
  else panel.edit (·.insert character)

def lineKey (panel : Panel) (modifiers : Modifiers) : Key → Panel
  | .character character => panel.characterKey modifiers character
  | .backspace => panel.edit .backspace
  | .delete => panel.edit .delete
  | .left => panel.edit fun line => if modifiers.control then line.wordLeft else line.left
  | .right => panel.edit fun line => if modifiers.control then line.wordRight else line.right
  | .home => panel.edit .home
  | .last => panel.edit .toLast
  | .up => panel.previousEntry
  | .down => panel.nextEntry
  | .pageUp => panel.previousPage
  | .pageDown => panel.nextPage
  | .enter => panel.submit
  | .function 1 => panel.openHelp
  | .escape =>
    if panel.line.characters.isEmpty then { panel with leaving := true } else panel.clearLine
  | _ => panel

def key (panel : Panel) (modifiers : Modifiers) (key : Key) : Panel :=
  if panel.helpShown then panel.helpKey key else panel.lineKey modifiers key

def wheel (panel : Panel) (down : Bool) : Panel :=
  let turn (scroll : Nat) : Nat :=
    if down then scrolledDown scroll wheelRows else scroll - wheelRows
  if panel.helpShown then { panel with helpScroll := turn panel.helpScroll }
  else { panel with historyScroll := turn panel.historyScroll }

end Panel

end Reckoner
