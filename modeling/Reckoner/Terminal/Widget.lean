import Reckoner.Terminal.Filling
import Reckoner.Terminal.Screen

/-!
# Drawing boxes, paragraphs and lists

A box is a border with a title in its upper line.  A paragraph writes lines into a rectangle, cut
off or continued on further rows.  A list shows as many of its rows as fit, moved so that the
selected one is among them.
-/

namespace Reckoner

namespace Terminal

structure BorderSet where
  topLeft : Char
  topRight : Char
  bottomLeft : Char
  bottomRight : Char
  horizontal : Char
  vertical : Char
deriving Repr, DecidableEq

namespace BorderSet

def single : BorderSet := ⟨'┌', '┐', '└', '┘', '─', '│'⟩

def double : BorderSet := ⟨'╔', '╗', '╚', '╝', '═', '║'⟩

end BorderSet

structure Box where
  border : BorderSet
  borderStyle : Style
  style : Style
  title : Span

namespace Box

def titleColumn (width titleWidth : Nat) : Nat :=
  (width - titleWidth) / 2

def drawBorder (box : Box) (screen : Screen) (area : Area) : Screen :=
  let right := area.x + area.width - 1
  let bottom := area.y + area.height - 1
  let side (character : Char) (screen : Screen) (part : Area) : Screen :=
    screen.changeArea part fun cell => ⟨[character], box.borderStyle.laidOver cell.style⟩
  let corner (character : Char) (x y : Nat) (screen : Screen) : Screen :=
    screen.put x y [character] box.borderStyle
  let set := box.border
  let screen := side set.vertical screen { area with width := 1 }
  let screen := side set.horizontal screen { area with height := 1 }
  let screen := side set.vertical screen ⟨right, area.y, 1, area.height⟩
  let screen := side set.horizontal screen ⟨area.x, bottom, area.width, 1⟩
  screen
    |> corner set.bottomRight right bottom
    |> corner set.topRight right area.y
    |> corner set.bottomLeft area.x bottom
    |> corner set.topLeft area.x area.y

variable [Text.Widths]

def drawTitle (box : Box) (screen : Screen) (area : Area) : Screen :=
  let x := area.x + titleColumn area.width (Text.columns box.title.characters)
  screen.writeLine x area.y (x + (area.width - 2)) [box.title]

def draw (box : Box) (screen : Screen) (area : Area) : Screen :=
  if area.width = 0 ∨ area.height = 0 then screen
  else box.drawTitle (box.drawBorder (screen.restyle area box.style) area) area

end Box

inductive Alignment where
  | left
  | center
deriving Repr, DecidableEq

namespace Alignment

def column (alignment : Alignment) (width rowWidth : Nat) : Nat :=
  match alignment with
  | .left => 0
  | .center => width / 2 - rowWidth / 2

end Alignment

section Rows

variable [Text.Widths]

namespace Screen

def putGlyphs (screen : Screen) (x y : Nat) : List Glyph → Screen
  | [] => screen
  | glyph :: rest =>
    if glyph.columns = 0 then screen.putGlyphs x y rest
    else (screen.put x y glyph.characters glyph.style).putGlyphs (x + glyph.columns) y rest

/-- Puts rows of glyphs into a rectangle, as many as it has room for. -/
def putRows (screen : Screen) (area : Area) (alignment : Alignment) (rows : List (List Glyph)) :
    Screen :=
  let placed := (rows.take area.height).zipIdx
  placed.foldl (fun screen (row, index) =>
    let x := area.x + alignment.column area.width (Glyph.columnsOfAll row)
    screen.putGlyphs x (area.y + index) row) screen

/-- Writes lines into a rectangle, each cut off at the right. -/
def writeLines (screen : Screen) (area : Area) (alignment : Alignment) (lines : List Line) :
    Screen :=
  if area.width = 0 then screen
  else
    screen.putRows area alignment
      (lines.map fun line => Glyph.cutOff area.width 0 (Glyph.ofLine line))

end Screen

def filledRows (width : Nat) (lines : List Line) : List (List Glyph) :=
  if width = 0 then [] else lines.flatMap (Filling.rowsOf width)

end Rows

namespace Viewport

/-- The rows of a list that are shown, from the first to the one behind the last: from the offset
on, but moved as little as possible so that the selected row is among them. -/
def rows (count height offset selected : Nat) : Nat × Nat :=
  let start := min offset (count - 1)
  let finish := min count (start + height)
  let selected := min selected (count - 1)
  let (start, finish) :=
    if finish ≤ selected then (max start (selected + 1 - height), selected + 1)
    else (start, finish)
  if selected < start then (selected, min finish (selected + height)) else (start, finish)

end Viewport

namespace Screen

variable [Text.Widths]

/-- Writes the rows of a list that are in sight, and lays a style over the selected one. -/
def writeList (screen : Screen) (area : Area) (rows : List Line) (offset : Nat)
    (selected : Option Nat) (selectedStyle : Style) : Screen :=
  if area.width = 0 ∨ area.height = 0 then screen
  else
    let (start, finish) := Viewport.rows rows.length area.height offset (selected.getD 0)
    let placed := ((rows.drop start).take (finish - start)).zipIdx
    placed.foldl (fun screen (row, index) =>
      let y := area.y + index
      let screen := screen.writeLine area.x y (area.x + area.width) row
      if selected = some (start + index) then screen.restyle (area.row index) selectedStyle
      else screen) screen

end Screen

end Terminal

end Reckoner
