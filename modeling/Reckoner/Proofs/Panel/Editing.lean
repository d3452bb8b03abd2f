import Reckoner.Panel.InputLine

/-!
# Editing inside the line

Here the operations on the line are taken step by step: a word is walked over character by
character, a text is cut at byte offsets, and a difference is only taken where it is not negative.
An operation that asked for a character outside the line, cut through a character or went below
zero would have no result at all.

That does not happen as long as the cursor is inside the line (`InputLine.Within`): then each
operation has a result, which is the one of the panel, and the cursor stays inside.
-/

namespace Reckoner

namespace Text

/-- The difference of two numbers, unless it is negative. -/
def difference? (large small : Nat) : Option Nat :=
  if small ≤ large then some (large - small) else none

/-- Walks to the left as long as the character in front is accepted. -/
def walkLeft? (accepts : Char → Bool) (characters : List Char) : (place : Nat) → Option Nat
  | 0 => some 0
  | place + 1 =>
    match characters[place]? with
    | none => none
    | some character =>
      if accepts character then walkLeft? accepts characters place else some (place + 1)

/-- Walks to the right as long as there is a character and it is accepted. -/
def walkRight? (accepts : Char → Bool) (characters : List Char) (place : Nat) : Option Nat :=
  if place < characters.length then
    match characters[place]? with
    | none => none
    | some character =>
      if accepts character then walkRight? accepts characters (place + 1) else some place
  else some place
termination_by characters.length - place

variable {accepts : Char → Bool} {characters : List Char} {place : Nat}

theorem difference?_of_le {large small : Nat} (enough : small ≤ large) :
    difference? large small = some (large - small) :=
  if_pos enough

/-- Walking to the left drops what is accepted from the end of the text in front. -/
theorem walkLeft?_eq (inside : place ≤ characters.length) :
    walkLeft? accepts characters place =
      some ((characters.take place).reverse.dropWhile accepts).length := by
  induction place with
  | zero => rfl
  | succ place induction =>
      have front : (characters.take (place + 1)).reverse =
          characters[place] :: (characters.take place).reverse := by
        rw [List.take_succ_eq_append_getElem inside, List.reverse_concat]
      rw [walkLeft?, List.getElem?_eq_getElem inside, front, List.dropWhile_cons]
      by_cases accepted : accepts characters[place] = true
      · simp only [accepted, if_true]
        exact induction (Nat.le_of_lt inside)
      · simp only [accepted, Bool.false_eq_true, if_false]
        rw [List.length_cons, List.length_reverse, List.length_take_of_le (Nat.le_of_lt inside)]

/-- Walking to the right drops what is accepted from the start of the text behind. -/
theorem walkRight?_eq (inside : place ≤ characters.length) :
    walkRight? accepts characters place =
      some (characters.length - ((characters.drop place).dropWhile accepts).length) := by
  induction remaining : characters.length - place generalizing place with
  | zero =>
      have atEnd : place = characters.length := by omega
      rw [walkRight?, if_neg (by omega), atEnd, List.drop_length]
      rfl
  | succ remaining induction =>
      have more : place < characters.length := by omega
      rw [walkRight?, if_pos more, List.getElem?_eq_getElem more, List.drop_eq_getElem_cons more,
        List.dropWhile_cons]
      by_cases accepted : accepts characters[place] = true
      · simp only [accepted, if_true]
        exact induction more (by omega)
      · simp only [accepted, Bool.false_eq_true, if_false]
        rw [List.length_cons, List.length_drop]
        congr 1
        omega

/-- What is left at the end of a reversed front is a shorter front. -/
theorem take_of_suffix {front : List Char}
    (suffix : front <:+ (characters.take place).reverse) :
    (characters.take front.length).reverse = front := by
  have shorter : front.reverse <+: characters := by
    apply List.IsPrefix.trans _ (List.take_prefix place characters)
    rwa [← List.reverse_suffix, List.reverse_reverse]
  have same := List.prefix_iff_eq_take.mp shorter
  rw [List.length_reverse] at same
  rw [← same, List.reverse_reverse]

/-- Behind a character the offset is larger by the bytes of that character. -/
theorem byteOffset_succ {character : Char} {rest : List Char}
    (behind : characters.drop place = character :: rest) :
    byteOffset characters (place + 1) = byteOffset characters place + character.utf8Size := by
  induction characters generalizing place with
  | nil => simp at behind
  | cons first others induction =>
      cases place with
      | zero =>
          obtain ⟨rfl, _⟩ := List.cons.inj behind
          cases others <;> simp [byteOffset]
      | succ place =>
          rw [byteOffset, byteOffset, induction behind]
          omega

end Text

namespace InputLine

/-- The cursor stands in front of one of the characters, or behind the last. -/
def Within (line : InputLine) : Prop :=
  line.cursor ≤ line.characters.length

def insert? (line : InputLine) (character : Char) : Option InputLine := do
  let offset := Text.byteOffset line.characters line.cursor
  let characters ← Text.insertAtByte? line.characters offset character
  some { line with characters := characters, cursor := line.cursor + 1 }

/-- Takes out the bytes of the character behind the cursor, if there is one. -/
def delete? (line : InputLine) : Option InputLine := do
  let offset := Text.byteOffset line.characters line.cursor
  let (front, behind) ← Text.splitAtByte? offset line.characters
  match behind with
  | [] => some line
  | character :: _ =>
    let (_, rest) ← Text.splitAtByte? (offset + character.utf8Size) line.characters
    some { line with characters := front ++ rest }

def backspace? (line : InputLine) : Option InputLine :=
  if line.cursor = 0 then some line
  else do
    let cursor ← Text.difference? line.cursor 1
    delete? { line with cursor := cursor }

def wordLeft? (line : InputLine) : Option InputLine := do
  let place ← Text.walkLeft? Text.isBlank line.characters line.cursor
  let cursor ← Text.walkLeft? (!Text.isBlank ·) line.characters place
  some { line with cursor := cursor }

def wordRight? (line : InputLine) : Option InputLine := do
  let place ← Text.walkRight? (!Text.isBlank ·) line.characters line.cursor
  let cursor ← Text.walkRight? Text.isBlank line.characters place
  some { line with cursor := cursor }

def follow? (line : InputLine) (width : Nat) : Option InputLine := do
  let scroll ←
    if line.cursor < line.scroll then some line.cursor
    else if line.scroll + width ≤ line.cursor then
      (Text.difference? line.cursor width).map (· + 1)
    else some line.scroll
  some { line with scroll := min scroll (line.characters.length - width) }

variable {line : InputLine}

theorem insert?_eq (line : InputLine) (character : Char) :
    line.insert? character = some (line.insert character) := by
  simp [insert?, insert, Text.insertAtByte?, Text.splitAtByte?_byteOffset, Text.insertAt_eq]

theorem delete?_eq (line : InputLine) : line.delete? = some line.delete := by
  rw [delete?, delete, Text.splitAtByte?_byteOffset, Text.removeAt_eq]
  cases behind : line.characters.drop line.cursor with
  | nil =>
      have all : line.characters.length ≤ line.cursor := List.drop_eq_nil_iff.mp behind
      simp [List.take_of_length_le all, List.drop_eq_nil_of_le (Nat.le_succ_of_le all)]
  | cons character rest =>
      simp [← Text.byteOffset_succ behind, Text.splitAtByte?_byteOffset]

theorem backspace?_eq (line : InputLine) : line.backspace? = some line.backspace := by
  unfold backspace? backspace
  by_cases start : line.cursor = 0
  · rw [if_pos start, if_pos start]
  · rw [if_neg start, if_neg start, Text.difference?_of_le (Nat.one_le_iff_ne_zero.mpr start)]
    exact delete?_eq _

theorem wordLeft?_eq (within : line.Within) : line.wordLeft? = some line.wordLeft := by
  have suffix := List.dropWhile_suffix Text.isBlank (l := (line.characters.take line.cursor).reverse)
  have shorter := suffix.length_le
  rw [List.length_reverse, List.length_take] at shorter
  rw [wordLeft?, Text.walkLeft?_eq within]
  simp only [Option.bind_eq_bind, Option.bind_some]
  rw [Text.walkLeft?_eq (by omega), Text.take_of_suffix suffix]
  rfl

theorem wordRight?_eq (within : line.Within) : line.wordRight? = some line.wordRight := by
  have suffix := (List.dropWhile_suffix (!Text.isBlank ·)).trans
    (List.drop_suffix line.cursor line.characters)
  rw [wordRight?, Text.walkRight?_eq within]
  simp only [Option.bind_eq_bind, Option.bind_some]
  rw [Text.walkRight?_eq (Nat.sub_le _ _), ← List.suffix_iff_eq_drop.mp suffix]
  rfl

theorem follow?_eq (line : InputLine) (width : Nat) :
    line.follow? width = some (line.follow width) := by
  unfold follow? follow
  split
  · rfl
  · split
    · next behind =>
        have enough : width ≤ line.cursor := by omega
        have next : line.cursor - width + 1 = line.cursor + 1 - width := by omega
        rw [Text.difference?_of_le enough]
        simp [next]
    · rfl

theorem Within.insert (within : line.Within) (character : Char) :
    (line.insert character).Within := by
  unfold Within InputLine.insert at *
  simp only [Text.insertAt_eq, List.length_append, List.length_cons, List.length_take,
    List.length_drop]
  omega

theorem Within.delete (within : line.Within) : line.delete.Within := by
  unfold Within InputLine.delete at *
  simp only [Text.removeAt_eq, List.length_append, List.length_take, List.length_drop]
  omega

theorem Within.backspace (within : line.Within) : line.backspace.Within := by
  unfold InputLine.backspace
  split
  · exact within
  · -- at the cursor there is a character, so the line gets as much shorter as the cursor moves
    unfold Within InputLine.delete at *
    simp only [Text.removeAt_eq, List.length_append, List.length_take, List.length_drop]
    omega

theorem Within.left (within : line.Within) : line.left.Within :=
  Nat.le_trans (Nat.sub_le _ _) within

theorem Within.right (line : InputLine) : line.right.Within :=
  Nat.min_le_right _ _

theorem Within.wordLeft (line : InputLine) : line.wordLeft.Within := by
  have inFront := (List.dropWhile_suffix (!Text.isBlank ·)).trans
    (List.dropWhile_suffix Text.isBlank (l := (line.characters.take line.cursor).reverse))
  have shorter := inFront.length_le
  rw [List.length_reverse, List.length_take] at shorter
  exact Nat.le_trans shorter (Nat.min_le_right _ _)

theorem Within.wordRight (line : InputLine) : line.wordRight.Within :=
  Nat.sub_le _ _

theorem Within.move (within : line.Within) (direction : Int) : (line.move direction).Within := by
  unfold InputLine.move
  split
  · exact within.left
  · split
    · exact Within.right line
    · exact within

end InputLine

end Reckoner
