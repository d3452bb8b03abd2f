import Reckoner.Text.Ranges

/-!
# Blanks and words

A blank is a character with the property `White_Space`.  Text is trimmed of blanks at its ends,
and splits at blanks into words.
-/

namespace Reckoner

namespace Text

/-- The code points with the property `White_Space`. -/
def blankRanges : Ranges :=
  [(0x9, 0xD), (0x20, 0x20), (0x85, 0x85), (0xA0, 0xA0), (0x1680, 0x1680), (0x2000, 0x200A),
   (0x2028, 0x2029), (0x202F, 0x202F), (0x205F, 0x205F), (0x3000, 0x3000)]

def isBlank (character : Char) : Bool :=
  blankRanges.contains character.toNat

def trimStart (characters : List Char) : List Char :=
  characters.dropWhile isBlank

def trimEnd (characters : List Char) : List Char :=
  (trimStart characters.reverse).reverse

def trim (characters : List Char) : List Char :=
  trimEnd (trimStart characters)

def consWord (word : List Char) (words : List (List Char)) : List (List Char) :=
  if word.isEmpty then words else word :: words

/-- The word being read at the start of the characters, and the words behind it. -/
def splitWord : List Char → List Char × List (List Char)
  | [] => ([], [])
  | character :: rest =>
    let (word, words) := splitWord rest
    if isBlank character then ([], consWord word words) else (character :: word, words)

/-- The maximal runs of characters that are no blanks. -/
def words (characters : List Char) : List (List Char) :=
  let (word, rest) := splitWord characters
  consWord word rest

def unwords (words : List (List Char)) : List Char :=
  [' '].intercalate words

end Text

end Reckoner
