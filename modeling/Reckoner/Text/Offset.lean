/-!
# Places in a text

A place in a text is given by the number of characters in front of it, or by the number of bytes
that these characters take in UTF-8.  A text is edited at a byte offset; an offset in the middle of
a character, or behind the end, is none at all.
-/

namespace Reckoner

namespace Text

def byteLength : List Char → Nat
  | [] => 0
  | character :: rest => character.utf8Size + byteLength rest

/-- The byte offset of the character with the given index; the length of the text if there is no
such character. -/
def byteOffset : List Char → (index : Nat) → Nat
  | [], _ => 0
  | _ :: _, 0 => 0
  | character :: rest, index + 1 => character.utf8Size + byteOffset rest index

/-- The parts of a text in front of and behind a byte offset. -/
def splitAtByte? : (offset : Nat) → List Char → Option (List Char × List Char)
  | 0, characters => some ([], characters)
  | _ + 1, [] => none
  | offset, character :: rest =>
    if character.utf8Size ≤ offset then
      (splitAtByte? (offset - character.utf8Size) rest).map
        fun parts => (character :: parts.1, parts.2)
    else none

theorem splitAtByte?_byteOffset (characters : List Char) (index : Nat) :
    splitAtByte? (byteOffset characters index) characters =
      some (characters.take index, characters.drop index) := by
  induction characters generalizing index with
  | nil => simp [byteOffset, splitAtByte?]
  | cons character rest ih =>
    cases index with
    | zero => simp [byteOffset, splitAtByte?]
    | succ index =>
      have positive := character.utf8Size_pos
      obtain ⟨offset, offset_eq⟩ :
          ∃ offset, character.utf8Size + byteOffset rest index = offset + 1 :=
        ⟨character.utf8Size + byteOffset rest index - 1, by omega⟩
      have fits : character.utf8Size ≤ offset + 1 := by omega
      have remaining : offset + 1 - character.utf8Size = byteOffset rest index := by omega
      simp [byteOffset, offset_eq, splitAtByte?, fits, remaining, ih]

def insertAtByte? (characters : List Char) (offset : Nat) (character : Char) :
    Option (List Char) :=
  (splitAtByte? offset characters).map fun parts => parts.1 ++ character :: parts.2

def removeAtByte? (characters : List Char) (offset : Nat) : Option (List Char) :=
  (splitAtByte? offset characters).map fun parts => parts.1 ++ parts.2.drop 1

def insertAt (characters : List Char) (index : Nat) (character : Char) : List Char :=
  (insertAtByte? characters (byteOffset characters index) character).getD characters

def removeAt (characters : List Char) (index : Nat) : List Char :=
  (removeAtByte? characters (byteOffset characters index)).getD characters

/-- Inserting by bytes inserts in front of the character with the given index. -/
theorem insertAt_eq (characters : List Char) (index : Nat) (character : Char) :
    insertAt characters index character =
      characters.take index ++ character :: characters.drop index := by
  simp [insertAt, insertAtByte?, splitAtByte?_byteOffset]

theorem removeAt_eq (characters : List Char) (index : Nat) :
    removeAt characters index = characters.take index ++ characters.drop (index + 1) := by
  simp [removeAt, removeAtByte?, splitAtByte?_byteOffset]

end Text

end Reckoner
