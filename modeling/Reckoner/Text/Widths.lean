/-!
# Widths

Breaking a text into lines, and writing it on a screen, take the widths of texts and of characters
as given.  What they rely on are a few laws: `Widths` has those for breaking lines, `ScreenWidths`
those for what is written on a screen.

The width of a text is not always the sum of the widths of its characters, as some characters are
drawn as one when they are joined.  So a text may be narrower than its parts, but not wider, and it
can be divided at a space without a difference.
-/

namespace Reckoner

namespace Text

class Widths where
  columns : List Char → Nat
  /-- The columns of a character under the East Asian reading, unless it has none there. -/
  eastAsianColumnsOf : Char → Option Nat
  columns_nil : columns [] = 0
  columns_append_le (left right : List Char) :
    columns (left ++ right) ≤ columns left + columns right
  columns_append_space (left right : List Char) :
    columns (left ++ ' ' :: right) = columns left + 1 + columns right
  columns_singleton_le (character : Char) :
    columns [character] ≤ (eastAsianColumnsOf character).getD 1

export Widths (columns eastAsianColumnsOf columns_nil columns_append_le columns_append_space
  columns_singleton_le)

/-- The columns of a character that stands alone. -/
def columnsOf [Widths] (character : Char) : Nat :=
  columns [character]

def totalOf (widthOf : Char → Nat) : List Char → Nat
  | [] => 0
  | character :: rest => widthOf character + totalOf widthOf rest

theorem totalOf_append (widthOf : Char → Nat) (left right : List Char) :
    totalOf widthOf (left ++ right) = totalOf widthOf left + totalOf widthOf right := by
  induction left with
  | nil => exact (Nat.zero_add _).symm
  | cons character left induction =>
      rw [List.cons_append, totalOf, totalOf, induction, Nat.add_assoc]

/-- Widths that add up, if a space takes one column, and no character takes more than under the East
Asian reading. -/
abbrev Widths.ofCharacters (widthOf : Char → Nat) (eastAsian : Char → Option Nat)
    (space : widthOf ' ' = 1)
    (narrow : ∀ character, widthOf character ≤ (eastAsian character).getD 1) : Widths where
  columns := totalOf widthOf
  eastAsianColumnsOf := eastAsian
  columns_nil := rfl
  columns_append_le left right := Nat.le_of_eq (totalOf_append widthOf left right)
  columns_append_space left right := by
    rw [totalOf_append, totalOf, space, Nat.add_assoc]
  columns_singleton_le := narrow

/-- No character makes the one in front of it share its columns. -/
def Unjoined (text : List Char) : Prop :=
  ∀ character ∈ text, character ≠ '\n' ∧ character ≠ '\u200D'

/-- The characters of ASCII that are neither control characters nor DEL. -/
def isPrintable (character : Char) : Bool :=
  0x20 ≤ character.toNat && character.toNat ≤ 0x7E

class ScreenWidths extends Widths where
  columns_cons_unjoined (character : Char) {text : List Char} :
    Unjoined text → columns (character :: text) = columns [character] + columns text
  columns_printable {character : Char} : isPrintable character = true → columns [character] = 1
  columns_side : columns ['│'] = 1
  columns_lineFeed : columns ['\n'] = 0
  columns_joiner : columns ['\u200D'] = 0
  columns_le_two (character : Char) : columns [character] ≤ 2

export ScreenWidths (columns_cons_unjoined columns_printable columns_side columns_lineFeed
  columns_joiner columns_le_two)

end Text

end Reckoner
