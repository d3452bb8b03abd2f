import Reckoner.Text.Blank
import Reckoner.Text.Offset

/-!
# The line being typed

A line of text with a cursor in front of one of its characters or behind the last, and the number
of characters scrolled out of sight on the left.  Places are counted in characters.
-/

namespace Reckoner

structure InputLine where
  characters : List Char
  /-- The number of characters in front of the cursor. -/
  cursor : Nat
  /-- The number of characters out of sight on the left. -/
  scroll : Nat
deriving Repr, DecidableEq

namespace InputLine

def empty : InputLine where
  characters := []
  cursor := 0
  scroll := 0

def text (line : InputLine) : String :=
  String.ofList line.characters

/-- The line with the given characters and the cursor behind them. -/
def ofCharacters (characters : List Char) : InputLine where
  characters := characters
  cursor := characters.length
  scroll := 0

def insert (line : InputLine) (character : Char) : InputLine :=
  { line with
    characters := Text.insertAt line.characters line.cursor character
    cursor := line.cursor + 1 }

def delete (line : InputLine) : InputLine :=
  { line with characters := Text.removeAt line.characters line.cursor }

def backspace (line : InputLine) : InputLine :=
  if line.cursor = 0 then line else { line with cursor := line.cursor - 1 }.delete

def left (line : InputLine) : InputLine :=
  { line with cursor := line.cursor - 1 }

def right (line : InputLine) : InputLine :=
  { line with cursor := min (line.cursor + 1) line.characters.length }

/-- Moves the cursor by one character in the direction of `1` or `-1`; no other number moves
it. -/
def move (line : InputLine) (direction : Int) : InputLine :=
  if direction = -1 then line.left
  else if direction = 1 then line.right
  else line

def wordLeft (line : InputLine) : InputLine :=
  let before := (line.characters.take line.cursor).reverse
  { line with
    cursor := ((before.dropWhile Text.isBlank).dropWhile (!Text.isBlank ·)).length }

def wordRight (line : InputLine) : InputLine :=
  let behind := line.characters.drop line.cursor
  let rest := (behind.dropWhile (!Text.isBlank ·)).dropWhile Text.isBlank
  { line with cursor := line.characters.length - rest.length }

def home (line : InputLine) : InputLine :=
  { line with cursor := 0, scroll := 0 }

def toLast (line : InputLine) : InputLine :=
  { line with cursor := line.characters.length }

/-- Scrolls so that the cursor is in sight, and no room is left empty on the right while
characters are out of sight on the left. -/
def follow (line : InputLine) (width : Nat) : InputLine :=
  let scroll :=
    if line.cursor < line.scroll then line.cursor
    else if line.scroll + width ≤ line.cursor then line.cursor + 1 - width
    else line.scroll
  { line with scroll := min scroll (line.characters.length - width) }

def visible (line : InputLine) (width : Nat) : List Char :=
  (line.characters.drop line.scroll).take width

end InputLine

end Reckoner
