import Reckoner.Text.Blank
import Reckoner.Text.Widths

/-!
# Breaking text into lines

Words are put on a line as long as they fit, with one space between them.  A word wider than a
line begins a line of its own and is cut where the next character would not fit; characters are
then measured by their East Asian widths, so a piece never turns out too wide.
-/

namespace Reckoner

namespace Text

variable [Widths]

/-- The columns that a character may need when a word is cut. -/
def cutColumnsOf (character : Char) : Nat :=
  (eastAsianColumnsOf character).getD 1

/-- Cuts a word into pieces; the piece being filled is kept in reverse order, with its columns. -/
def cutFrom (width : Nat) (piece : List Char) (used : Nat) : List Char → List (List Char)
  | [] => if piece.isEmpty then [] else [piece.reverse]
  | character :: rest =>
    let needed := cutColumnsOf character
    if width < used + needed ∧ !piece.isEmpty then
      piece.reverse :: cutFrom width [character] needed rest
    else cutFrom width (character :: piece) (used + needed) rest

def cut (width : Nat) (word : List Char) : List (List Char) :=
  cutFrom width [] 0 word

def lineIfAny (line : List Char) : List (List Char) :=
  if line.isEmpty then [] else [line]

/-- Puts words behind those already on the line, which take the given columns. -/
def fillLines (width : Nat) (line : List Char) (used : Nat) :
    List (List Char) → List (List Char)
  | [] => lineIfAny line
  | word :: rest =>
    let needed := columns word
    if width < needed then lineIfAny line ++ cut width word ++ fillLines width [] 0 rest
    else if line.isEmpty then fillLines width word needed rest
    else if width < used + needed + 1 then line :: fillLines width word needed rest
    else fillLines width (line ++ ' ' :: word) (used + 1 + needed) rest

/-- The lines of a text; for lines without any column there is one empty line. -/
def wrap (width : Nat) (characters : List Char) : List (List Char) :=
  if width = 0 then [[]] else fillLines width [] 0 (words characters)

end Text

end Reckoner
