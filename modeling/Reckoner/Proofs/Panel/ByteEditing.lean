import Reckoner.Proofs.Panel.Editing
import Reckoner.Proofs.Text.Bytes

/-!
# Editing bytes and characters

The cursor counts characters, and the text is edited at byte offsets.  Each operation replaces a
piece of the text, and does the same to the bytes as to the characters (`InputLine.Edited`), however
many bytes a character takes; none of them cuts through a character, so the checked operations have
results (`InputLine.editing`).
-/

namespace Reckoner

namespace Text

variable {characters : List Char} {index : Nat}

/-- The offset in front of the character with an index, or behind the text if there is none: it is
the number of bytes in front, and no character lies on both sides of it. -/
structure IsOffset (characters : List Char) (index offset : Nat) : Prop where
  length_eq :
    offset = (String.ofList (characters.take (min index characters.length))).utf8ByteSize
  boundary : (String.Pos.Raw.mk offset).IsValid (String.ofList characters)

theorem isOffset_byteOffset (characters : List Char) (index : Nat) :
    IsOffset characters index (byteOffset characters index) where
  length_eq := by rw [← List.take_eq_take_min, byteOffset_eq, byteLength_eq]
  boundary := isValid_byteOffset characters index

theorem removeAt_eq_eraseIdx (characters : List Char) (index : Nat) :
    removeAt characters index = characters.eraseIdx index := by
  rw [removeAt_eq, List.eraseIdx_eq_take_drop_succ]

end Text

namespace InputLine

variable {line edited : InputLine} {low high cursor : Nat} {replacement : List Char}

/-- An edit puts a replacement where the characters from `low` up to `high` have been, in the
characters of the line and in the bytes of its text alike, and moves the cursor. -/
structure Edited (line : InputLine) (low high : Nat) (replacement : List Char) (cursor : Nat)
    (edited : InputLine) : Prop where
  line_eq : edited =
    { line with
      characters := line.characters.take low ++ replacement ++ line.characters.drop high
      cursor := cursor }
  bytes_eq : edited.text.toByteArray =
    Text.replaceBytes line.text.toByteArray (Text.byteOffset line.characters low)
      (Text.byteOffset line.characters high) (String.ofList replacement).toByteArray

/-- The bytes follow from the characters. -/
theorem edited_of_line_eq (same : edited =
      { line with
        characters := line.characters.take low ++ replacement ++ line.characters.drop high
        cursor := cursor }) : Edited line low high replacement cursor edited where
  line_eq := same
  bytes_eq := by
    rw [same]
    exact (Text.replaceBytes_byteOffset line.characters replacement low high).symm

theorem insert_edited (line : InputLine) (character : Char) :
    Edited line line.cursor line.cursor [character] (line.cursor + 1) (line.insert character) := by
  apply edited_of_line_eq
  rw [insert, Text.insertAt_eq, List.append_assoc]
  rfl

theorem delete_edited (line : InputLine) :
    Edited line line.cursor (line.cursor + 1) [] line.cursor line.delete := by
  apply edited_of_line_eq
  rw [delete, Text.removeAt_eq, List.append_nil]

theorem delete_eq_self (atEnd : line.characters.length ≤ line.cursor) : line.delete = line := by
  rw [delete, Text.removeAt_eq_eraseIdx, List.eraseIdx_of_length_le atEnd]

theorem backspace_edited (inside : 0 < line.cursor) :
    Edited line (line.cursor - 1) line.cursor [] (line.cursor - 1) line.backspace := by
  apply edited_of_line_eq
  rw [backspace, if_neg (Nat.ne_of_gt inside), delete, Text.removeAt_eq, List.append_nil,
    Nat.sub_add_cancel inside]

/-- Taking an inserted character out again restores the line, wherever it was inserted. -/
theorem backspace_insert (within : line.Within) (character : Char) :
    (line.insert character).backspace = line := by
  have inFront : (line.characters.take line.cursor).length = line.cursor :=
    List.length_take_of_le within
  have restored : (line.insert character).characters.eraseIdx line.cursor = line.characters := by
    rw [insert, Text.insertAt_eq, List.eraseIdx_append_of_length_le (Nat.le_of_eq inFront),
      inFront, Nat.sub_self, List.eraseIdx_cons_zero, List.take_append_drop]
  calc
    (line.insert character).backspace
        = { line with
            characters := Text.removeAt (line.insert character).characters line.cursor } :=
      if_neg (Nat.succ_ne_zero _)
    _ = line := by rw [Text.removeAt_eq_eraseIdx, restored]

/-- The operations on a line replace what they say and nothing else, in bytes as in characters. -/
theorem editing (within : line.Within) (character : Char) :
    (∀ characters index, Text.IsOffset characters index (Text.byteOffset characters index)) ∧
    (line.insert? character = some (line.insert character) ∧
      Edited line line.cursor line.cursor [character] (line.cursor + 1)
        (line.insert character)) ∧
    (line.delete? = some line.delete ∧
      (line.cursor < line.characters.length →
        Edited line line.cursor (line.cursor + 1) [] line.cursor line.delete) ∧
      (line.cursor = line.characters.length → line.delete = line)) ∧
    (∀ characters index, Text.removeAt characters index = characters.eraseIdx index) ∧
    (line.backspace? = some line.backspace ∧
      (0 < line.cursor →
        Edited line (line.cursor - 1) line.cursor [] (line.cursor - 1) line.backspace) ∧
      (line.cursor = 0 → line.backspace = line)) ∧
    (line.insert character).backspace = line :=
  ⟨Text.isOffset_byteOffset, ⟨insert?_eq line character, insert_edited line character⟩,
    ⟨delete?_eq line, fun _ => delete_edited line,
      fun atEnd => delete_eq_self (Nat.le_of_eq atEnd.symm)⟩,
    Text.removeAt_eq_eraseIdx,
    ⟨backspace?_eq line, backspace_edited, fun atStart => if_pos atStart⟩,
    backspace_insert within character⟩

theorem editing_multibyte :
    (InputLine.mk ['2', 'π', '😀', '1'] 2 0).Within ∧
      Text.byteOffset ['2', 'π', '😀', '1'] 2 = 3 ∧
      (InputLine.mk ['2', 'π', '😀', '1'] 2 0).insert '√' =
        ⟨['2', 'π', '√', '😀', '1'], 3, 0⟩ ∧
      (InputLine.mk ['2', 'π', '😀', '1'] 2 0).delete = ⟨['2', 'π', '1'], 2, 0⟩ ∧
      (InputLine.mk ['2', 'π', '😀', '1'] 2 0).backspace = ⟨['2', '😀', '1'], 1, 0⟩ := by
  have within : (InputLine.mk ['2', 'π', '😀', '1'] 2 0).Within := (by decide : 2 ≤ 4)
  obtain ⟨_, ⟨_, inserted⟩, ⟨_, deleted, _⟩, _, ⟨_, erased, _⟩, _⟩ := editing within '√'
  exact ⟨within, rfl, inserted.line_eq, (deleted (by decide)).line_eq,
    (erased (by decide)).line_eq⟩

end InputLine

end Reckoner
