import Reckoner.Proofs.Text.Words
import Reckoner.Text.Columns
import Reckoner.Text.Wrapping

/-!
# Lines of words

A text that is not blank has words, and words fill at least one line (`wrap_ne_nil`).

Words are put on lines one after the other.  Each finishes some lines and leaves another one open
(`Fills`), and so do several in a row (`exists_fills`); what the words do does not depend on those
behind them.  So the lines of a text hold its words in order, each whole unless it is wider than a
line, and no line is wider than asked for or ends before it has to, whatever the widths are
(`wrap_wrapped`).
-/

namespace Reckoner

namespace Text

variable {text word line : List Char} {words : List (List Char)} {character : Char}

theorem words_ne_nil (member : character ∈ text) (solid : isBlank character = false) :
    Text.words text ≠ [] := by
  have head := (trimmed_trim text).head
  rw [← words_trim]
  cases kept : trim text with
  | nil => exact absurd kept (trim_ne_nil member solid)
  | cons first rest =>
      rw [kept] at head
      rw [words_solid (head first rfl)]
      exact List.cons_ne_nil _ _

theorem lineIfAny_words (line : List Char) :
    (lineIfAny line).flatMap Text.words = Text.words line := by
  unfold lineIfAny
  split
  · next empty =>
      rw [List.isEmpty_iff.mp empty]
      rfl
  · exact List.append_nil _

theorem words_join (isWord : IsWord word) :
    Text.words (line ++ ' ' :: word) = Text.words line ++ [word] := by
  rw [words_append_blank (by decide), words_of_isWord isWord]

section Lines

variable [Widths]

/-! ## The pieces of a word -/

/-- The line is not too wide, or it is a single character that is. -/
def Narrow (width : Nat) (line : List Char) : Prop :=
  columns line ≤ width ∨ ∃ character, line = [character] ∧ width < columnsOf character

theorem narrow_singleton (width : Nat) (character : Char) : Narrow width [character] := by
  rcases Nat.lt_or_ge width (columnsOf character) with wide | fits
  · exact .inr ⟨character, rfl, wide⟩
  · exact .inl fits

theorem cutFrom_flatten (width used : Nat) (piece word : List Char) :
    (cutFrom width piece used word).flatten = piece.reverse ++ word := by
  induction word generalizing piece used with
  | nil =>
      rw [cutFrom]
      split
      · next empty =>
          rw [List.isEmpty_iff.mp empty]
          rfl
      · simp
  | cons character word induction =>
      rw [cutFrom]
      split
      · rw [List.flatten_cons, induction]
        rfl
      · rw [induction, List.reverse_cons, List.append_assoc]
        rfl

/-- The piece being filled takes no more columns than have been counted, and only a single character
takes more than a line has. -/
theorem cutFrom_narrow {width used : Nat} {piece : List Char}
    (counted : columns piece.reverse ≤ used) (narrow : Narrow width piece.reverse) :
    ∀ line ∈ cutFrom width piece used word, line ≠ [] ∧ Narrow width line := by
  induction word generalizing piece used with
  | nil =>
      rw [cutFrom]
      split
      · exact nofun
      · next filled =>
          rw [List.forall_mem_singleton]
          exact ⟨by simpa using filled, narrow⟩
  | cons character word induction =>
      have single : columns [character] ≤ cutColumnsOf character := columns_singleton_le character
      rw [cutFrom]
      split
      · next full =>
          refine List.forall_mem_cons.mpr ⟨⟨by simpa using full.2, narrow⟩, ?_⟩
          exact induction single (narrow_singleton width character)
      · next room =>
          have joined : columns (character :: piece).reverse ≤ used + cutColumnsOf character := by
            have apart := columns_append_le piece.reverse [character]
            rw [List.reverse_cons]
            omega
          apply induction joined
          cases piece with
          | nil => exact narrow_singleton width character
          | cons other piece =>
              have fits : used + cutColumnsOf character ≤ width := by simpa using room
              exact .inl (Nat.le_trans joined fits)

theorem cut_flatten (width : Nat) (word : List Char) : (cut width word).flatten = word :=
  cutFrom_flatten width 0 [] word

theorem cut_narrow (width : Nat) (word : List Char) :
    ∀ piece ∈ cut width word, piece ≠ [] ∧ Narrow width piece :=
  cutFrom_narrow (Nat.le_of_eq columns_nil) (.inl (columns_nil.trans_le (Nat.zero_le width)))

theorem IsWord.cut (isWord : IsWord word) (width : Nat) :
    ∀ piece ∈ Text.cut width word, IsWord piece := by
  intro piece member
  refine ⟨(cut_narrow width word piece member).1, fun character inside => ?_⟩
  apply isWord.solid
  rw [← cut_flatten width word]
  exact List.mem_flatten_of_mem member inside

/-- The parts of a word that stand on one line each: all of it, or the pieces of a word that is wider
than a line. -/
def parts (width : Nat) (word : List Char) : List (List Char) :=
  if width < columns word then cut width word else [word]

theorem parts_flatten (width : Nat) (word : List Char) : (parts width word).flatten = word := by
  unfold parts
  split
  · exact cut_flatten width word
  · exact List.append_nil word

/-! ## Line by line -/

structure IsLine (width : Nat) (line : List Char) : Prop where
  nonempty : line ≠ []
  spaced : unwords (Text.words line) = line
  narrow : Narrow width line

/-- A line that is not finished: more words may come, as long as they fit. -/
structure Unfinished (width : Nat) (line : List Char) : Prop where
  spaced : unwords (Text.words line) = line
  fits : columns line ≤ width

/-- Behind the words some lines are finished and another one is not, whatever words follow.  The
lines hold the words, and none of them is too wide. -/
structure Fills (width : Nat) (line : List Char) (words above : List (List Char))
    (next : List Char) : Prop where
  fill : ∀ behind, fillLines width line (columns line) (words ++ behind) =
    above ++ fillLines width next (columns next) behind
  isLine : ∀ finished ∈ above, IsLine width finished
  unfinished : Unfinished width next
  words : (above ++ lineIfAny next).flatMap Text.words =
    Text.words line ++ words.flatMap (parts width)

variable {width : Nat} {next : List Char} {above : List (List Char)}

theorem Unfinished.nil (width : Nat) : Unfinished width [] :=
  ⟨rfl, columns_nil.trans_le (Nat.zero_le width)⟩

theorem IsWord.isLine (isWord : IsWord word) (narrow : Narrow width word) : IsLine width word where
  nonempty := isWord.nonempty
  spaced := by
    rw [words_of_isWord isWord]
    exact List.intercalate_singleton
  narrow := narrow

theorem IsWord.unfinished (isWord : IsWord word) (fits : columns word ≤ width) :
    Unfinished width word :=
  ⟨(isWord.isLine (.inl fits)).spaced, fits⟩

theorem Unfinished.isLine (unfinished : Unfinished width line) :
    ∀ finished ∈ lineIfAny line, IsLine width finished := by
  unfold lineIfAny
  split
  · exact nofun
  · next filled =>
      rw [List.forall_mem_singleton]
      exact ⟨by simpa using filled, unfinished.spaced, .inl unfinished.fits⟩

/-- A word that fits is put behind the words of the line. -/
theorem Unfinished.join (unfinished : Unfinished width line) (nonempty : line ≠ [])
    (isWord : IsWord word) (fits : columns line + columns word + 1 ≤ width) :
    Unfinished width (line ++ ' ' :: word) where
  spaced := by
    have some : Text.words line ≠ [] := by
      intro none
      apply nonempty
      rw [← unfinished.spaced, none]
      rfl
    rw [words_join isWord, unwords_concat some, unfinished.spaced]
  fits := by
    rw [columns_append_space]
    omega

theorem Unfinished.fills_nil (unfinished : Unfinished width line) :
    Fills width line [] [] line where
  fill _ := rfl
  isLine := nofun
  unfinished := unfinished
  words := by
    rw [List.nil_append, lineIfAny_words]
    exact (List.append_nil _).symm

theorem Fills.append {others below : List (List Char)} {last : List Char}
    (fills : Fills width line words above next) (more : Fills width next others below last) :
    Fills width line (words ++ others) (above ++ below) last where
  fill behind := by rw [List.append_assoc, fills.fill, more.fill, List.append_assoc]
  isLine := List.forall_mem_append.mpr ⟨fills.isLine, more.isLine⟩
  unfinished := more.unfinished
  words := by
    have first := fills.words
    rw [List.flatMap_append, lineIfAny_words] at first
    rw [List.append_assoc, List.flatMap_append, more.words, ← List.append_assoc, first,
      List.append_assoc, List.flatMap_append]

/-- The columns that are counted for a line are those it takes. -/
theorem fillLines_cons (width : Nat) (line word : List Char) (words : List (List Char)) :
    fillLines width line (columns line) (word :: words) =
      if width < columns word then
        lineIfAny line ++ cut width word ++ fillLines width [] (columns []) words
      else if line.isEmpty then fillLines width word (columns word) words
      else if width < columns line + columns word + 1 then
        line :: fillLines width word (columns word) words
      else fillLines width (line ++ ' ' :: word) (columns (line ++ ' ' :: word)) words := by
  rw [fillLines, columns_nil, columns_append_space]

/-- One word: it is cut, or opens a line, or joins the line that is open. -/
theorem Unfinished.exists_fills_word (unfinished : Unfinished width line) (isWord : IsWord word) :
    ∃ above next, Fills width line [word] above next ∧ (columns word ≤ width → next ≠ []) := by
  by_cases wide : width < columns word
  · refine ⟨lineIfAny line ++ cut width word, [], ⟨?_, ?_, .nil width, ?_⟩, ?_⟩
    · intro behind
      rw [List.singleton_append, fillLines_cons, if_pos wide]
    · refine List.forall_mem_append.mpr ⟨unfinished.isLine, fun piece member => ?_⟩
      exact (isWord.cut width piece member).isLine (cut_narrow width word piece member).2
    · rw [List.append_assoc, List.flatMap_append, lineIfAny_words, List.flatMap_append,
        flatMap_words (isWord.cut width), List.flatMap_singleton, parts, if_pos wide]
      exact congrArg _ (List.append_nil _)
    · omega
  · have fits := Nat.le_of_not_lt wide
    have part : [word].flatMap (parts width) = [word] := by
      rw [List.flatMap_singleton, parts, if_neg wide]
    by_cases empty : line.isEmpty = true
    · refine ⟨[], word, ⟨?_, nofun, isWord.unfinished fits, ?_⟩, fun _ => isWord.nonempty⟩
      · intro behind
        rw [List.singleton_append, fillLines_cons, if_neg wide, if_pos empty]
        rfl
      · rw [List.nil_append, lineIfAny_words, words_of_isWord isWord, part,
          List.isEmpty_iff.mp empty]
        rfl
    · have filled : line ≠ [] := fun nothing => empty (List.isEmpty_iff.mpr nothing)
      by_cases full : width < columns line + columns word + 1
      · refine ⟨[line], word, ⟨?_, ?_, isWord.unfinished fits, ?_⟩, fun _ => isWord.nonempty⟩
        · intro behind
          rw [List.singleton_append, fillLines_cons, if_neg wide, if_neg empty, if_pos full]
          rfl
        · rw [List.forall_mem_singleton]
          exact ⟨filled, unfinished.spaced, .inl unfinished.fits⟩
        · rw [List.flatMap_append, lineIfAny_words, words_of_isWord isWord, part,
            List.flatMap_singleton]
      · refine ⟨[], line ++ ' ' :: word,
          ⟨?_, nofun, unfinished.join filled isWord (by omega), ?_⟩, fun _ => by simp⟩
        · intro behind
          rw [List.singleton_append, fillLines_cons, if_neg wide, if_neg empty, if_neg full]
          rfl
        · rw [List.nil_append, lineIfAny_words, words_join isWord, part]

theorem Unfinished.exists_fills (unfinished : Unfinished width line)
    (all : ∀ word ∈ words, IsWord word) : ∃ above next, Fills width line words above next := by
  induction words generalizing line with
  | nil => exact ⟨[], line, unfinished.fills_nil⟩
  | cons word words induction =>
      obtain ⟨isWord, rest⟩ := List.forall_mem_cons.mp all
      obtain ⟨above, next, first, _⟩ := unfinished.exists_fills_word isWord
      obtain ⟨below, last, others⟩ := induction first.unfinished rest
      exact ⟨above ++ below, last, first.append others⟩

/-- A line that is open is the start of the next line to be finished. -/
theorem exists_first (width : Nat) (nonempty : line ≠ []) (words : List (List Char)) :
    ∃ more below, fillLines width line (columns line) words = (line ++ more) :: below := by
  have alone : lineIfAny line = [line] := if_neg (by simpa using nonempty)
  induction words generalizing line with
  | nil => exact ⟨[], [], by rw [fillLines, alone, List.append_nil]⟩
  | cons word words induction =>
      rw [fillLines_cons]
      split
      · exact ⟨[], _, by rw [alone, List.append_nil, List.append_assoc]; rfl⟩
      · split
        · next empty => exact absurd (List.isEmpty_iff.mp empty) nonempty
        · split
          · exact ⟨[], _, by rw [List.append_nil]⟩
          · have joined : line ++ ' ' :: word ≠ [] := by simp
            obtain ⟨more, below, same⟩ := induction joined (if_neg (by simp))
            exact ⟨' ' :: word ++ more, below, by rw [same, List.append_assoc]⟩

/-! ## The lines of a text -/

theorem wrap_eq (text : List Char) (room : 0 < width) :
    wrap width text = fillLines width [] (columns []) (Text.words text) := by
  rw [wrap, if_neg (Nat.ne_of_gt room), columns_nil]

/-- All words of the text have been put on lines; if one line is open, it is the last one. -/
theorem exists_fills_wrap (text : List Char) (room : 0 < width) :
    ∃ above last, Fills width [] (Text.words text) above last ∧
      wrap width text = above ++ lineIfAny last := by
  obtain ⟨above, last, fills⟩ := (Unfinished.nil width).exists_fills (words_isWord text)
  refine ⟨above, last, fills, ?_⟩
  rw [wrap_eq text room, ← List.append_nil (Text.words text), fills.fill, fillLines]

theorem wrap_isLine (text : List Char) (room : 0 < width) :
    ∀ line ∈ wrap width text, IsLine width line := by
  obtain ⟨above, last, fills, lines⟩ := exists_fills_wrap text room
  rw [lines]
  exact List.forall_mem_append.mpr ⟨fills.isLine, fills.unfinished.isLine⟩

theorem wrap_words (text : List Char) (room : 0 < width) :
    (wrap width text).flatMap Text.words = (Text.words text).flatMap (parts width) := by
  obtain ⟨above, last, fills, lines⟩ := exists_fills_wrap text room
  rw [lines]
  exact fills.words

theorem wrap_kept (text : List Char) (room : 0 < width) :
    (wrap width text).flatten.filter (!isBlank ·) = text.filter (!isBlank ·) := by
  calc
    (wrap width text).flatten.filter (!isBlank ·)
      = ((wrap width text).flatMap Text.words).flatten := by
        rw [List.filter_flatten, List.flatMap_def, List.flatten_flatten, List.map_map]
        congr 2
        funext line
        exact (words_flatten line).symm
    _ = ((Text.words text).flatMap (parts width)).flatten := by rw [wrap_words text room]
    _ = (Text.words text).flatten := by
        rw [List.flatMap_def, List.flatten_flatten, List.map_map]
        congr 1
        exact (List.map_congr_left fun word _ => parts_flatten width word).trans (List.map_id _)
    _ = text.filter (!isBlank ·) := words_flatten text

/-- The lines of a text hold the characters of the text, and spaces. -/
theorem mem_of_mem_wrap (room : 0 < width) (member : line ∈ wrap width text) {character : Char}
    (inside : character ∈ line) : character = ' ' ∨ character ∈ text := by
  cases blank : isBlank character with
  | true =>
      rw [← (wrap_isLine text room line member).spaced] at inside
      refine (mem_unwords inside).imp_right ?_
      rintro ⟨word, wordMember, inWord⟩
      have solid := (words_isWord line word wordMember).solid character inWord
      rw [blank] at solid
      contradiction
  | false =>
      have kept : character ∈ (wrap width text).flatten.filter (!isBlank ·) := by
        rw [List.mem_filter, blank]
        exact ⟨List.mem_flatten.mpr ⟨line, member, inside⟩, rfl⟩
      rw [wrap_kept text room] at kept
      exact .inr (List.mem_filter.mp kept).1

/-- A text that is not blank has a line. -/
theorem wrap_ne_nil (width : Nat) (nonempty : Text.words text ≠ []) : wrap width text ≠ [] := by
  rcases Nat.eq_zero_or_pos width with rfl | room
  · exact List.cons_ne_nil _ _
  · intro empty
    obtain ⟨word, rest, words⟩ := List.exists_cons_of_ne_nil nonempty
    have isWord := words_isWord text word (words ▸ List.mem_cons_self)
    have kept := wrap_kept text room
    rw [empty, ← words_flatten text, words, List.flatten_cons] at kept
    exact isWord.nonempty (List.append_eq_nil_iff.mp kept.symm).1

/-- Two neighbouring words that fit on a line each: the first one is the last word of a line when the
second one is read, and the second one begins a new line only if it does not fit behind it. -/
theorem wrap_neighbours {front back : List (List Char)} {first second : List Char}
    (room : 0 < width) (split : Text.words text = front ++ first :: second :: back)
    (firstFits : columns first ≤ width) (secondFits : columns second ≤ width) :
    ∃ above line more below,
      (above ++ [line]).flatMap Text.words = (front ++ [first]).flatMap (parts width) ∧
        (wrap width text = above ++ line :: (second ++ more) :: below ∧
            width < columns line + 1 + columns second ∨
          wrap width text = above ++ (line ++ ' ' :: second ++ more) :: below) := by
  have isWord := words_isWord text
  rw [split] at isWord
  obtain ⟨frontWords, others⟩ := List.forall_mem_append.mp isWord
  obtain ⟨firstWord, others⟩ := List.forall_mem_cons.mp others
  obtain ⟨secondWord, _⟩ := List.forall_mem_cons.mp others
  obtain ⟨upper, begun, before⟩ := (Unfinished.nil width).exists_fills frontWords
  obtain ⟨middle, line, word, filled⟩ := before.unfinished.exists_fills_word firstWord
  have nonempty := filled firstFits
  have both := before.append word
  have placed : (upper ++ middle ++ [line]).flatMap Text.words =
      (front ++ [first]).flatMap (parts width) := by
    have lineEq : lineIfAny line = [line] := if_neg (by simpa using nonempty)
    rw [← lineEq]
    exact both.words
  have lines : wrap width text =
      upper ++ middle ++ fillLines width line (columns line) (second :: back) := by
    rw [wrap_eq text room, split]
    exact (congrArg (fillLines width [] (columns [])) (List.append_assoc front [first] _).symm).trans
      (both.fill (second :: back))
  rw [fillLines_cons, if_neg (Nat.not_lt_of_le secondFits), if_neg (by simpa using nonempty)] at lines
  by_cases full : width < columns line + columns second + 1
  · obtain ⟨more, below, same⟩ := exists_first width secondWord.nonempty back
    rw [if_pos full, same] at lines
    exact ⟨_, line, more, below, placed, .inl ⟨lines, by omega⟩⟩
  · have joined : line ++ ' ' :: second ≠ [] := by simp
    obtain ⟨more, below, same⟩ := exists_first width joined back
    rw [if_neg full, same] at lines
    exact ⟨_, line, more, below, placed, .inr lines⟩

/-- What the lines of a text are, if they are to have a given width. -/
structure Wrapped (width : Nat) (text : List Char) (lines : List (List Char)) : Prop where
  isLine : ∀ line ∈ lines, IsLine width line
  /-- Nothing but blanks is lost, and nothing is doubled or moved. -/
  kept : lines.flatten.filter (!isBlank ·) = text.filter (!isBlank ·)
  /-- The words on the lines are those of the text, each whole if it fits on a line. -/
  whole : lines.flatMap Text.words = (Text.words text).flatMap (parts width)
  /-- Of two neighbouring words that fit on a line each, the second one begins a new line only if it
  does not fit behind the first. -/
  full : ∀ front first second back, Text.words text = front ++ first :: second :: back →
    columns first ≤ width → columns second ≤ width →
    ∃ above line more below,
      (above ++ [line]).flatMap Text.words = (front ++ [first]).flatMap (parts width) ∧
        (lines = above ++ line :: (second ++ more) :: below ∧
            width < columns line + 1 + columns second ∨
          lines = above ++ (line ++ ' ' :: second ++ more) :: below)

/-- Whatever the widths are, a text is broken into lines without loss.  No line is empty or too wide,
unless it is a single character wider than a line; a word that fits on a line is not divided; and
where both words at a break fit on a line, the second one did not fit behind the first. -/
theorem wrap_wrapped (text : List Char) (width : Nat) (room : 0 < width) :
    Wrapped width text (wrap width text) where
  isLine := wrap_isLine text room
  kept := wrap_kept text room
  whole := wrap_words text room
  full _ _ _ _ := wrap_neighbours room

end Lines

/-- The widths of the same characters, always added up. -/
@[reducible] def Tables.summedWidths : Widths :=
  .ofCharacters Tables.columnsOf Tables.eastAsianColumnsOf (by decide) Tables.columnsOf_le_eastAsian

/-- A word wider than a line between others, two pictures joined to one, and a character wider than a
line, this also where widths are always added up. -/
theorem wrap_wrapped_wide :
    0 < 5 ∧ Wrapped 5 "1 + 2 abcdefgh x".toList
        ["1 + 2".toList, "abcde".toList, "fgh".toList, "x".toList] ∧
      0 < 2 ∧ Wrapped 2 "👩\u200D👩".toList ["👩\u200D👩".toList] ∧
      0 < 1 ∧ Wrapped 1 "a 中b".toList ["a".toList, "中".toList, "b".toList] ∧
      @Wrapped Tables.summedWidths 1 "a 中b".toList ["a".toList, "中".toList, "b".toList] := by
  have broken : wrap 5 "1 + 2 abcdefgh x".toList =
      ["1 + 2".toList, "abcde".toList, "fgh".toList, "x".toList] := by
    decide +kernel
  have joined : wrap 2 "👩\u200D👩".toList = ["👩\u200D👩".toList] := by
    decide +kernel
  have single : wrap 1 "a 中b".toList = ["a".toList, "中".toList, "b".toList] := by
    decide +kernel
  have summed : @wrap Tables.summedWidths 1 "a 中b".toList =
      ["a".toList, "中".toList, "b".toList] := by
    decide +kernel
  refine ⟨by decide, ?_, by decide, ?_, by decide, ?_, ?_⟩
  · exact broken ▸ wrap_wrapped _ 5 (by decide)
  · exact joined ▸ wrap_wrapped _ 2 (by decide)
  · exact single ▸ wrap_wrapped _ 1 (by decide)
  · exact summed ▸ @wrap_wrapped Tables.summedWidths _ 1 (by decide)

end Text

end Reckoner
