import Reckoner.Text.Offset

/-!
# Bytes of a text

Strings are kept in UTF-8, where a character takes one to four bytes.  The lengths and offsets of
`Text` are those of the encoded text (`byteLength_eq`), the offset of a character is a position in
the string (`isValid_byteOffset`), and a text is divided at an offset exactly if a part of its
characters has this length (`splitAtByte?_eq_some_iff`): an offset inside a character divides
nothing.

Replacing the bytes between the offsets of two characters replaces the characters between them
(`replaceBytes_byteOffset`).
-/

namespace Reckoner

namespace Text

variable {characters front behind : List Char} {offset : Nat}

theorem byteLength_append (left right : List Char) :
    byteLength (left ++ right) = byteLength left + byteLength right := by
  induction left with
  | nil => exact (Nat.zero_add _).symm
  | cons character left induction =>
      rw [List.cons_append, byteLength, byteLength, induction, Nat.add_assoc]

/-- The length in bytes is that of the string. -/
theorem byteLength_eq (characters : List Char) :
    byteLength characters = (String.ofList characters).utf8ByteSize := by
  induction characters with
  | nil => rfl
  | cons character rest induction =>
      rw [byteLength, induction, String.ofList_cons, String.utf8ByteSize_append,
        String.utf8ByteSize_singleton]

/-- In front of a character there are the bytes of the characters in front of it. -/
theorem byteOffset_eq (characters : List Char) (index : Nat) :
    byteOffset characters index = byteLength (characters.take index) := by
  induction characters generalizing index with
  | nil => rw [byteOffset, List.take_nil, byteLength]
  | cons character rest induction =>
      cases index with
      | zero => rw [byteOffset, List.take_zero, byteLength]
      | succ index => rw [byteOffset, induction, List.take_succ_cons, byteLength]

theorem isValid_byteOffset (characters : List Char) (index : Nat) :
    (String.Pos.Raw.mk (byteOffset characters index)).IsValid (String.ofList characters) := by
  refine String.Pos.Raw.isValid_iff_exists_take_toList.mpr ⟨index, ?_⟩
  rw [String.toList_ofList, ← byteLength_eq, ← byteOffset_eq]

theorem eq_append_of_splitAtByte? (split : splitAtByte? offset characters = some (front, behind)) :
    characters = front ++ behind ∧ byteLength front = offset := by
  induction characters generalizing offset front with
  | nil =>
      cases offset with
      | zero =>
          cases split
          exact ⟨rfl, rfl⟩
      | succ offset => cases split
  | cons character rest induction =>
      cases offset with
      | zero =>
          cases split
          exact ⟨rfl, rfl⟩
      | succ offset =>
          rw [splitAtByte?] at split
          · obtain ⟨fits, split⟩ := Option.ite_none_right_eq_some.mp split
            obtain ⟨⟨others, last⟩, inner, same⟩ := Option.map_eq_some_iff.mp split
            obtain ⟨rfl, rfl⟩ := Prod.mk.inj same
            obtain ⟨rfl, length⟩ := induction inner
            exact ⟨rfl, by rw [byteLength, length, Nat.add_sub_cancel' fits]⟩
          · exact Nat.succ_ne_zero offset

/-- A text is divided at an offset exactly if the characters in front have this length. -/
theorem splitAtByte?_eq_some_iff :
    splitAtByte? offset characters = some (front, behind) ↔
      characters = front ++ behind ∧ byteLength front = offset := by
  refine ⟨eq_append_of_splitAtByte?, ?_⟩
  rintro ⟨rfl, rfl⟩
  have split := splitAtByte?_byteOffset (front ++ behind) front.length
  rw [byteOffset_eq, List.take_left, List.drop_left] at split
  exact split

/-- The bytes of a text. -/
def bytes (characters : List Char) : ByteArray :=
  (String.ofList characters).toByteArray

theorem bytes_append (left right : List Char) :
    bytes (left ++ right) = bytes left ++ bytes right := by
  rw [bytes, String.ofList_append, String.toByteArray_append]
  rfl

theorem size_bytes (characters : List Char) : (bytes characters).size = byteLength characters := by
  rw [bytes, String.size_toByteArray, byteLength_eq]

/-- The bytes from `start` up to `stop` give way to other ones. -/
def replaceBytes (all : ByteArray) (start stop : Nat) (replacement : ByteArray) : ByteArray :=
  all.extract 0 start ++ replacement ++ all.extract stop all.size

/-- Between the offsets of characters, replacing bytes is replacing characters. -/
theorem replaceBytes_byteOffset (characters replacement : List Char) (low high : Nat) :
    replaceBytes (bytes characters) (byteOffset characters low) (byteOffset characters high)
        (bytes replacement) =
      bytes (characters.take low ++ replacement ++ characters.drop high) := by
  have inFront : (bytes characters).extract 0 (byteOffset characters low) =
      bytes (characters.take low) := by
    have parts := bytes_append (characters.take low) (characters.drop low)
    rw [List.take_append_drop] at parts
    rw [parts, byteOffset_eq, ← size_bytes]
    exact ByteArray.extract_append_eq_left rfl
  have behind : (bytes characters).extract (byteOffset characters high) (bytes characters).size =
      bytes (characters.drop high) := by
    have parts := bytes_append (characters.take high) (characters.drop high)
    rw [List.take_append_drop] at parts
    rw [parts, byteOffset_eq, ← size_bytes]
    exact ByteArray.extract_append_eq_right rfl ByteArray.size_append
  rw [replaceBytes, inFront, behind, bytes_append, bytes_append]

end Text

end Reckoner
