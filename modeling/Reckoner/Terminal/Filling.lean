import Reckoner.Terminal.Style
import Reckoner.Text.Blank
import Reckoner.Text.Cluster
import Reckoner.Text.Widths

/-!
# Filling rows with styled text

A line of styled text that is too long for a row is continued on further rows, or cut off.  When it
is continued, blanks at its start and at the ends of rows are dropped, the other blanks are kept,
and a word wider than a row is divided.

The text is taken glyph by glyph.  A word is put on the row when the blank behind it has been seen,
with the blanks in front of it unless it is the first; a row is finished as soon as the word being
read no longer fits on it.
-/

namespace Reckoner

namespace Terminal

structure Glyph where
  characters : List Char
  style : Style
deriving Repr, DecidableEq

variable [Text.Widths]

namespace Glyph

def columns (glyph : Glyph) : Nat :=
  Text.columns glyph.characters

def columnsOfAll : List Glyph → Nat
  | [] => 0
  | glyph :: rest => glyph.columns + columnsOfAll rest

/-- Whether a row may be broken at a glyph: it consists of blanks other than the no-break
space. -/
def isBlank (glyph : Glyph) : Bool :=
  glyph.characters.all Text.isBlank && glyph.characters != ['\u00A0']

def ofLine (line : Line) : List Glyph :=
  line.flatMap fun span =>
    ((Text.clusters span.characters).filter (· != ['\n'])).map (⟨·, span.style⟩)

/-- The glyphs that fit into a row, up to the first that does not; glyphs wider than a row are
left out. -/
def cutOff (width : Nat) (used : Nat) : List Glyph → List Glyph
  | [] => []
  | glyph :: rest =>
    if width < glyph.columns then cutOff width used rest
    else if width < used + glyph.columns then []
    else glyph :: cutOff width (used + glyph.columns) rest

end Glyph

structure Filling where
  /-- The finished rows, the last first. -/
  rows : List (List Glyph)
  row : List Glyph
  blanks : List Glyph
  word : List Glyph
  inWord : Bool

namespace Filling

def start : Filling where
  rows := []
  row := []
  blanks := []
  word := []
  inWord := false

/-- Puts the word on the row, with the blanks in front of it unless it is the first. -/
def finishWord (filling : Filling) : Filling :=
  { filling with
    row :=
      if filling.row.isEmpty then filling.word
      else filling.row ++ filling.blanks ++ filling.word
    blanks := []
    word := [] }

/-- Drops the blanks that fit into the rest of a row, and one more.  Says also whether that one
was missing. -/
def dropBlanks (room : Nat) : List Glyph → List Glyph × Bool
  | [] => ([], true)
  | blank :: rest =>
    if room < blank.columns then (rest, false) else dropBlanks (room - blank.columns) rest

def addGlyph (filling : Filling) (glyph : Glyph) : Filling :=
  if glyph.isBlank then { filling with blanks := filling.blanks ++ [glyph], inWord := false }
  else { filling with word := filling.word ++ [glyph], inWord := true }

def endsWord (width : Nat) (filling : Filling) (glyph : Glyph) : Bool :=
  let columns := glyph.columns
  (filling.inWord && glyph.isBlank) ||
    (filling.row.isEmpty &&
      (width < Glyph.columnsOfAll filling.word + columns ||
        width < Glyph.columnsOfAll filling.blanks + columns))

def endsRow (width : Nat) (filling : Filling) (glyph : Glyph) : Bool :=
  let row := Glyph.columnsOfAll filling.row
  let blanks := Glyph.columnsOfAll filling.blanks
  let word := Glyph.columnsOfAll filling.word
  width ≤ row || (width ≤ row + blanks + word && 0 < glyph.columns)

def add (width : Nat) (filling : Filling) (glyph : Glyph) : Filling :=
  if width < glyph.columns then filling
  else
    let filling := if filling.endsWord width glyph then filling.finishWord else filling
    if filling.endsRow width glyph then
      let (blanks, exhausted) :=
        dropBlanks (width - Glyph.columnsOfAll filling.row) filling.blanks
      let next :=
        { filling with rows := filling.row :: filling.rows, row := [], blanks := blanks }
      if glyph.isBlank && exhausted then next else next.addGlyph glyph
    else filling.addGlyph glyph

def finish (filling : Filling) : List (List Glyph) :=
  let rows :=
    if filling.row.isEmpty && filling.word.isEmpty && !filling.blanks.isEmpty then
      [] :: filling.rows
    else filling.rows
  let row := filling.finishWord.row
  let rows := if row.isEmpty then rows else row :: rows
  if rows.isEmpty then [[]] else rows.reverse

def rowsOf (width : Nat) (line : Line) : List (List Glyph) :=
  ((Glyph.ofLine line).foldl (add width) start).finish

end Filling

end Terminal

end Reckoner
