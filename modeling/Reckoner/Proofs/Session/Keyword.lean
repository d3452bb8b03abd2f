import Reckoner.Proofs.Panel.Editing
import Reckoner.Proofs.Session.Repetition
import Reckoner.Proofs.Text.Bytes

/-!
# The keyword at the ends of a line

The keyword is looked for in the first and in the last bytes of a line, where a character of several
bytes may lie across the offset at which the line is to be divided.  Then the keyword is not there:
what is equal to it but for letter case takes one byte for each character.  So the bytes are those
of the first or the last characters, and whatever is cut off is cut off between two characters
(`Request.ofLineBytes?_eq`).

`Request.KeywordInFront` and `Request.KeywordBehind` say where the keyword stands, and
`Request.ofLine_divides` what becomes of the line.
-/

namespace Reckoner

namespace Text

variable {line target word front behind : List Char} {offset : Nat}

/-- The text in front of a byte offset, if the offset divides the text. -/
def frontOf? (offset : Nat) (characters : List Char) : Option (List Char) :=
  (splitAtByte? offset characters).map Prod.fst

/-- The text behind a byte offset, if the offset divides the text. -/
def behindOf? (offset : Nat) (characters : List Char) : Option (List Char) :=
  (splitAtByte? offset characters).map Prod.snd

theorem frontOf?_eq_some_iff :
    frontOf? offset line = some front ↔
      ∃ behind, line = front ++ behind ∧ byteLength front = offset := by
  simp [frontOf?, splitAtByte?_eq_some_iff]

theorem behindOf?_eq_some_iff :
    behindOf? offset line = some behind ↔
      ∃ front, line = front ++ behind ∧ byteLength front = offset := by
  simp [behindOf?, splitAtByte?_eq_some_iff]

theorem utf8Size_of_ascii {character : Char} (ascii : character.toNat < 128) :
    character.utf8Size = 1 :=
  Char.utf8Size_eq_one_iff.mpr (UInt32.le_iff_toNat_le.mpr (Nat.le_of_lt_succ ascii))

/-- A word that is equal to one in ASCII but for letter case takes one byte for each character. -/
theorem byteLength_of_equalIgnoringAsciiCase (ascii : ∀ character ∈ target, character.toNat < 128)
    (same : equalIgnoringAsciiCase word target = true) : byteLength word = target.length := by
  induction word generalizing target with
  | nil => exact Request.length_of_keyword same
  | cons character word induction =>
      cases target with
      | nil => cases same
      | cons first target =>
          obtain ⟨firstAscii, restAscii⟩ := List.forall_mem_cons.mp ascii
          obtain ⟨head, tail⟩ := List.cons.inj (beq_iff_eq.mp same)
          have code := congrArg Char.toNat head
          rw [toNat_toLower, toNat_toLower] at code
          have small : character.toNat < 128 := by
            split at code <;> split at code <;> omega
          rw [byteLength, utf8Size_of_ascii small, induction restAscii (beq_iff_eq.mpr tail),
            List.length_cons, Nat.add_comm]

end Text

namespace Request

variable {line : List Char}

/-- The bytes of the keyword with the space that divides it from the expression. -/
def keywordBytes : Nat :=
  Text.byteLength keyword + 1

/-- Divides a line that has no keyword in front.  The keyword is looked for in its last bytes; if it
is there, the offset has to divide the line. -/
def ofLineEnd? (line : List Char) : Option Request :=
  match Text.difference? (Text.byteLength line) keywordBytes with
  | none => some ⟨false, line⟩
  | some split =>
    if (Text.behindOf? split line).any (Text.equalIgnoringAsciiCase · (' ' :: keyword)) then
      (Text.frontOf? split line).map fun front => ⟨true, Text.trim front⟩
    else some ⟨false, line⟩

/-- Divides a line at byte offsets.  The keyword is looked for in its first bytes; if it is there,
the offset has to divide the line. -/
def ofLineBytes? (line : List Char) : Option Request :=
  if (Text.frontOf? keywordBytes line).any
      (Text.equalIgnoringAsciiCase · (keyword ++ [' '])) then
    (Text.behindOf? keywordBytes line).map fun rest => ⟨true, Text.trim rest⟩
  else ofLineEnd? line

/-- The word is the keyword, in any letter case. -/
def IsKeyword (word : List Char) : Prop :=
  Text.equalIgnoringAsciiCase word keyword = true

/-- The line starts with the keyword and a space, behind which the rest stands. -/
def KeywordInFront (line rest : List Char) : Prop :=
  ∃ word, IsKeyword word ∧ line = word ++ ' ' :: rest

/-- The line ends with a space and the keyword, in front of which the rest stands. -/
def KeywordBehind (line rest : List Char) : Prop :=
  ∃ word, IsKeyword word ∧ line = rest ++ ' ' :: word

/-! ## The keyword among the characters -/

theorem equal_keyword_space {text : List Char} :
    Text.equalIgnoringAsciiCase text (keyword ++ [' ']) = true ↔
      ∃ word, IsKeyword word ∧ text = word ++ [' '] := by
  rw [Text.equalIgnoringAsciiCase, beq_iff_eq, List.map_append]
  constructor
  · intro same
    obtain ⟨word, space, rfl, wordSame, spaceSame⟩ := List.map_eq_append_iff.mp same
    obtain ⟨character, rfl, blank⟩ := List.map_eq_singleton_iff.mp spaceSame
    obtain rfl := Text.eq_space_of_toLower_eq blank
    exact ⟨word, beq_iff_eq.mpr wordSame, rfl⟩
  · rintro ⟨word, isKeyword, rfl⟩
    rw [List.map_append, beq_iff_eq.mp isKeyword]

theorem equal_space_keyword {text : List Char} :
    Text.equalIgnoringAsciiCase text (' ' :: keyword) = true ↔
      ∃ word, IsKeyword word ∧ text = ' ' :: word := by
  rw [Text.equalIgnoringAsciiCase, beq_iff_eq, List.map_cons]
  constructor
  · intro same
    obtain ⟨character, word, rfl, blank, wordSame⟩ := List.map_eq_cons_iff.mp same
    obtain rfl := Text.eq_space_of_toLower_eq blank
    exact ⟨word, beq_iff_eq.mpr wordSame, rfl⟩
  · rintro ⟨word, isKeyword, rfl⟩
    rw [List.map_cons, beq_iff_eq.mp isKeyword]

theorem keywordInFront_iff {rest : List Char} :
    KeywordInFront line rest ↔
      Text.equalIgnoringAsciiCase (line.take (keyword.length + 1)) (keyword ++ [' ']) = true ∧
        rest = line.drop (keyword.length + 1) := by
  constructor
  · rintro ⟨word, isKeyword, rfl⟩
    have length : (word ++ [' ']).length = keyword.length + 1 := by
      rw [List.length_append, length_of_keyword isKeyword, List.length_singleton]
    rw [List.append_cons word, ← length, List.take_left, List.drop_left]
    exact ⟨equal_keyword_space.mpr ⟨word, isKeyword, rfl⟩, rfl⟩
  · rintro ⟨same, rfl⟩
    obtain ⟨word, isKeyword, start⟩ := equal_keyword_space.mp same
    refine ⟨word, isKeyword, ?_⟩
    rw [List.append_cons word, ← start, List.take_append_drop]

theorem keywordBehind_iff {rest : List Char} :
    KeywordBehind line rest ↔
      Text.equalIgnoringAsciiCase (line.drop (line.length - (keyword.length + 1)))
          (' ' :: keyword) = true ∧
        rest = line.take (line.length - (keyword.length + 1)) := by
  constructor
  · rintro ⟨word, isKeyword, rfl⟩
    have length : (rest ++ ' ' :: word).length - (keyword.length + 1) = rest.length := by
      rw [List.length_append, List.length_cons, length_of_keyword isKeyword, Nat.add_sub_cancel]
    rw [length, List.take_left, List.drop_left]
    exact ⟨equal_space_keyword.mpr ⟨word, isKeyword, rfl⟩, rfl⟩
  · rintro ⟨same, rfl⟩
    obtain ⟨word, isKeyword, finish⟩ := equal_space_keyword.mp same
    refine ⟨word, isKeyword, ?_⟩
    rw [← finish, List.take_append_drop]

/-! ## The keyword among the bytes -/

theorem IsKeyword.byteLength_eq {word : List Char} (isKeyword : IsKeyword word) :
    Text.byteLength word = Text.byteLength keyword := by
  have ascii : keyword.all (·.toNat < 128) = true := rfl
  exact Text.byteLength_of_equalIgnoringAsciiCase
    (fun character member => of_decide_eq_true (List.all_eq_true.mp ascii character member))
    isKeyword

theorem exists_keywordInFront_iff :
    (∃ rest, KeywordInFront line rest) ↔
      (Text.frontOf? keywordBytes line).any
        (Text.equalIgnoringAsciiCase · (keyword ++ [' '])) = true := by
  rw [Option.any_eq_true]
  constructor
  · rintro ⟨rest, word, isKeyword, rfl⟩
    refine ⟨word ++ [' '], Text.frontOf?_eq_some_iff.mpr ⟨rest, List.append_cons _ _ _, ?_⟩,
      equal_keyword_space.mpr ⟨word, isKeyword, rfl⟩⟩
    rw [Text.byteLength_append, isKeyword.byteLength_eq]
    rfl
  · rintro ⟨front, inFront, same⟩
    obtain ⟨rest, rfl, _⟩ := Text.frontOf?_eq_some_iff.mp inFront
    obtain ⟨word, isKeyword, rfl⟩ := equal_keyword_space.mp same
    exact ⟨rest, word, isKeyword, (List.append_cons _ _ _).symm⟩

theorem KeywordInFront.behindOf? {rest : List Char} (inFront : KeywordInFront line rest) :
    Text.behindOf? keywordBytes line = some rest := by
  obtain ⟨word, isKeyword, rfl⟩ := inFront
  refine Text.behindOf?_eq_some_iff.mpr ⟨word ++ [' '], List.append_cons _ _ _, ?_⟩
  rw [Text.byteLength_append, isKeyword.byteLength_eq]
  rfl

theorem byteLength_space_cons {word : List Char} (isKeyword : IsKeyword word) :
    Text.byteLength (' ' :: word) = keywordBytes := by
  rw [Text.byteLength, isKeyword.byteLength_eq, keywordBytes, Nat.add_comm]
  rfl

theorem ofLineEnd?_of_keywordBehind {rest : List Char} (behind : KeywordBehind line rest) :
    ofLineEnd? line = some ⟨true, Text.trim rest⟩ := by
  obtain ⟨word, isKeyword, rfl⟩ := behind
  have length : Text.difference? (Text.byteLength (rest ++ ' ' :: word)) keywordBytes =
      some (Text.byteLength rest) := by
    rw [Text.byteLength_append, byteLength_space_cons isKeyword,
      Text.difference?_of_le (Nat.le_add_left _ _), Nat.add_sub_cancel]
  have found : Text.behindOf? (Text.byteLength rest) (rest ++ ' ' :: word) =
      some (' ' :: word) := Text.behindOf?_eq_some_iff.mpr ⟨rest, rfl, rfl⟩
  have left : Text.frontOf? (Text.byteLength rest) (rest ++ ' ' :: word) = some rest :=
    Text.frontOf?_eq_some_iff.mpr ⟨' ' :: word, rfl, rfl⟩
  rw [ofLineEnd?, length]
  dsimp only
  rw [found, left]
  exact if_pos (equal_space_keyword.mpr ⟨word, isKeyword, rfl⟩)

theorem ofLineEnd?_of_not_keywordBehind (notBehind : ∀ rest, ¬KeywordBehind line rest) :
    ofLineEnd? line = some ⟨false, line⟩ := by
  rw [ofLineEnd?]
  cases Text.difference? (Text.byteLength line) keywordBytes with
  | none => rfl
  | some split =>
      refine if_neg fun found => ?_
      obtain ⟨finish, atEnd, same⟩ := (Option.any_eq_true _ _).mp found
      obtain ⟨rest, rfl, _⟩ := Text.behindOf?_eq_some_iff.mp atEnd
      obtain ⟨word, isKeyword, rfl⟩ := equal_space_keyword.mp same
      exact notBehind rest ⟨word, isKeyword, rfl⟩

/-! ## What becomes of a line -/

theorem ofLine_of_keywordInFront {rest : List Char} (inFront : KeywordInFront line rest) :
    ofLine line = ⟨true, Text.trim rest⟩ := by
  obtain ⟨same, rfl⟩ := keywordInFront_iff.mp inFront
  exact if_pos same

theorem ofLine_of_keywordBehind {rest : List Char} (notInFront : ∀ rest, ¬KeywordInFront line rest)
    (behind : KeywordBehind line rest) : ofLine line = ⟨true, Text.trim rest⟩ := by
  obtain ⟨same, rfl⟩ := keywordBehind_iff.mp behind
  have long : keyword.length + 1 ≤ line.length := by
    have length := length_of_keyword same
    rw [List.length_drop, List.length_cons] at length
    omega
  refine (if_neg fun front => ?_).trans (if_pos ⟨long, same⟩)
  exact notInFront _ (keywordInFront_iff.mpr ⟨front, rfl⟩)

theorem ofLine_of_no_keyword (notInFront : ∀ rest, ¬KeywordInFront line rest)
    (notBehind : ∀ rest, ¬KeywordBehind line rest) : ofLine line = ⟨false, line⟩ := by
  refine (if_neg fun front => ?_).trans (if_neg fun finish => ?_)
  · exact notInFront _ (keywordInFront_iff.mpr ⟨front, rfl⟩)
  · exact notBehind _ (keywordBehind_iff.mpr ⟨finish.2, rfl⟩)

/-- Dividing at bytes always has a result, and it is that of dividing the characters. -/
theorem ofLineBytes?_eq (line : List Char) : ofLineBytes? line = some (ofLine line) := by
  by_cases inFront : ∃ rest, KeywordInFront line rest
  · obtain ⟨rest, keywordAt⟩ := inFront
    rw [ofLineBytes?, if_pos (exists_keywordInFront_iff.mp ⟨rest, keywordAt⟩),
      keywordAt.behindOf?, ofLine_of_keywordInFront keywordAt]
    rfl
  · rw [ofLineBytes?, if_neg fun found => inFront (exists_keywordInFront_iff.mpr found)]
    have notInFront : ∀ rest, ¬KeywordInFront line rest := not_exists.mp inFront
    by_cases behind : ∃ rest, KeywordBehind line rest
    · obtain ⟨rest, keywordAt⟩ := behind
      rw [ofLineEnd?_of_keywordBehind keywordAt, ofLine_of_keywordBehind notInFront keywordAt]
    · have notBehind : ∀ rest, ¬KeywordBehind line rest := not_exists.mp behind
      rw [ofLineEnd?_of_not_keywordBehind notBehind, ofLine_of_no_keyword notInFront notBehind]

/-- A line is divided where the keyword stands at one of its ends, in front first, and never through
a character.  Of a trimmed line there is always something left, and it is trimmed. -/
theorem ofLine_divides (line : List Char) :
    ofLineBytes? line = some (ofLine line) ∧
    (∀ rest, KeywordInFront line rest → ofLine line = ⟨true, Text.trim rest⟩) ∧
    ((∀ rest, ¬KeywordInFront line rest) →
      ∀ rest, KeywordBehind line rest → ofLine line = ⟨true, Text.trim rest⟩) ∧
    ((∀ rest, ¬KeywordInFront line rest) → (∀ rest, ¬KeywordBehind line rest) →
      ofLine line = ⟨false, line⟩) ∧
    (line ≠ [] → Text.Trimmed line →
      (ofLine line).expression ≠ [] ∧ Text.Trimmed (ofLine line).expression) :=
  ⟨ofLineBytes?_eq line, fun _ => ofLine_of_keywordInFront,
    fun notInFront _ => ofLine_of_keywordBehind notInFront, ofLine_of_no_keyword,
    fun nonempty trimmed => ⟨ofLine_ne_nil trimmed nonempty, ofLine_trimmed trimmed⟩⟩

theorem ofLine_divides_multibyte :
    KeywordBehind ['√', '4', ' ', ' ', 'D', 'E', 'T', 'A', 'I', 'L', 'S'] ['√', '4', ' '] ∧
      ofLineBytes? ['√', '4', ' ', ' ', 'D', 'E', 'T', 'A', 'I', 'L', 'S'] =
        some ⟨true, ['√', '4']⟩ ∧
      Text.Trimmed (ofLine ['√', '4', ' ', ' ', 'D', 'E', 'T', 'A', 'I', 'L', 'S']).expression := by
  have keywordAt :
      KeywordBehind ['√', '4', ' ', ' ', 'D', 'E', 'T', 'A', 'I', 'L', 'S'] ['√', '4', ' '] :=
    ⟨['D', 'E', 'T', 'A', 'I', 'L', 'S'], rfl, rfl⟩
  have notInFront : ∀ rest,
      ¬KeywordInFront ['√', '4', ' ', ' ', 'D', 'E', 'T', 'A', 'I', 'L', 'S'] rest :=
    fun _ inFront => Bool.false_ne_true (keywordInFront_iff.mp inFront).1
  have trimmed : Text.Trimmed ['√', '4', ' ', ' ', 'D', 'E', 'T', 'A', 'I', 'L', 'S'] :=
    ⟨by rintro _ ⟨⟩; rfl, by rintro _ ⟨⟩; rfl⟩
  obtain ⟨bytes, _, behind, _, kept⟩ :=
    ofLine_divides ['√', '4', ' ', ' ', 'D', 'E', 'T', 'A', 'I', 'L', 'S']
  refine ⟨keywordAt, ?_, (kept (List.cons_ne_nil _ _) trimmed).2⟩
  rw [bytes, behind notInFront _ keywordAt]
  rfl

end Request

end Reckoner
