import Reckoner.Terminal.Style
import Reckoner.Text.Cluster
import Reckoner.Text.Widths

/-!
# The screen

A grid of cells, each with a cluster of characters and a style.  A cluster wider than one column
stands in its first cell; the cells that it covers are passed over when a row is read.
-/

namespace Reckoner

namespace Terminal

structure Cell where
  characters : List Char
  style : Style
deriving Repr, DecidableEq

def Cell.blank : Cell where
  characters := [' ']
  style := .plain

instance : Inhabited Cell where
  default := .blank

structure Area where
  x : Nat
  y : Nat
  width : Nat
  height : Nat
deriving Repr, DecidableEq

namespace Area

/-- The rectangle within a border of one cell; in a rectangle too narrow for a border nothing is
left. -/
def inner (area : Area) : Area where
  x := area.x + min 1 area.width
  y := area.y + min 1 area.height
  width := area.width - 2
  height := area.height - 2

def row (area : Area) (index : Nat) : Area :=
  { area with y := area.y + index, height := 1 }

end Area

structure Screen where
  width : Nat
  height : Nat
  cells : Array Cell
deriving Repr

namespace Screen

def blank (width height : Nat) : Screen where
  width := width
  height := height
  cells := Array.replicate (width * height) .blank

def area (screen : Screen) : Area :=
  ⟨0, 0, screen.width, screen.height⟩

/-- Changes a cell; places outside the screen have none. -/
def change (screen : Screen) (x y : Nat) (update : Cell → Cell) : Screen :=
  if x < screen.width then
    { screen with cells := screen.cells.modify (y * screen.width + x) update }
  else screen

def changeRow (screen : Screen) (x y width : Nat) (update : Cell → Cell) : Screen :=
  (List.range width).foldl (fun screen index => screen.change (x + index) y update) screen

def changeArea (screen : Screen) (area : Area) (update : Cell → Cell) : Screen :=
  (List.range area.height).foldl
    (fun screen index => screen.changeRow area.x (area.y + index) area.width update) screen

def restyle (screen : Screen) (area : Area) (style : Style) : Screen :=
  screen.changeArea area fun cell => { cell with style := style.laidOver cell.style }

def put (screen : Screen) (x y : Nat) (characters : List Char) (style : Style) : Screen :=
  screen.change x y fun cell => ⟨characters, style.laidOver cell.style⟩

variable [Text.Widths]

/-- Writes clusters into a row as far as the limit allows, and empties the cells that wide clusters
cover.  Gives the column behind the last cluster. -/
def writeClusters (screen : Screen) (x y limit : Nat) (style : Style) :
    List (List Char) → Screen × Nat
  | [] => (screen, x)
  | cluster :: rest =>
    let width := Text.columns cluster
    if width = 0 then writeClusters screen x y limit style rest
    else if limit < x + width then (screen, x)
    else
      let written := screen.put x y cluster style
      let emptied := written.changeRow (x + 1) y (width - 1) fun _ => .blank
      writeClusters emptied (x + width) y limit style rest

/-- Writes a line into a row, up to the column `limit`. -/
def writeLine (screen : Screen) (x y limit : Nat) : Line → Screen
  | [] => screen
  | span :: rest =>
    let (screen, x) :=
      screen.writeClusters x y limit span.style (Text.clusters span.characters)
    screen.writeLine x y limit rest

/-- Reads the cells of a row from left to right; `covered` cells belong to the cluster before. -/
def readCells (covered : Nat) : List Cell → List Cell
  | [] => []
  | cell :: rest =>
    match covered with
    | covered + 1 => readCells covered rest
    | 0 => cell :: readCells (Text.columns cell.characters - 1) rest

def row (screen : Screen) (y : Nat) : List Cell :=
  readCells 0 (screen.cells.extract (y * screen.width) ((y + 1) * screen.width)).toList

def rows (screen : Screen) : List (List Cell) :=
  (List.range screen.height).map screen.row

end Screen

end Terminal

end Reckoner
