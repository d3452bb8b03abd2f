import Reckoner.Proofs.Text.Trimming

/-!
# Words

The words of a text are its longest parts without blanks.  A blank ends a word and belongs to none
(`words_append_blank`), so neither trimming a text nor writing its words with single spaces changes
its words (`words_trim`, `words_unwords`), and together they are the text without its blanks
(`words_flatten`).

`splitWord` also says how far the first word goes: two texts on which it agrees start with the same
characters up to the first blank, and go on with the same words (`exists_rest_of_run`).
-/

namespace Reckoner

namespace Text

variable {character : Char} {text other run word : List Char} {others : List (List Char)}

theorem words_eq_consWord (text : List Char) :
    words text = consWord (splitWord text).1 (splitWord text).2 :=
  rfl

theorem splitWord_blank (blank : isBlank character = true) :
    splitWord (character :: text) = ([], words text) := by
  rw [splitWord, words]
  exact if_pos blank

theorem splitWord_solid (solid : isBlank character = false) :
    splitWord (character :: text) = (character :: (splitWord text).1, (splitWord text).2) := by
  rw [splitWord]
  exact if_neg (Bool.eq_false_iff.mp solid)

theorem words_blank (blank : isBlank character = true) : words (character :: text) = words text := by
  rw [words, splitWord_blank blank]
  rfl

theorem words_solid (solid : isBlank character = false) :
    words (character :: text) =
      (character :: (splitWord text).1) :: (splitWord text).2 := by
  rw [words, splitWord_solid solid]
  rfl

/-! ## The first word -/

theorem splitWord_run (solid : ∀ character ∈ run, isBlank character = false) :
    splitWord (run ++ text) = (run ++ (splitWord text).1, (splitWord text).2) := by
  induction run with
  | nil => rfl
  | cons character run induction =>
      obtain ⟨first, rest⟩ := List.forall_mem_cons.mp solid
      rw [List.cons_append, splitWord_solid first, induction rest]
      rfl

/-- The first word stands at the start of the text. -/
theorem exists_rest (split : splitWord text = (run ++ word, others)) :
    ∃ rest, text = run ++ rest ∧ splitWord rest = (word, others) := by
  induction run generalizing text with
  | nil => exact ⟨text, rfl, split⟩
  | cons character run induction =>
      cases text with
      | nil => cases split
      | cons first rest =>
          by_cases blank : isBlank first = true
          · rw [splitWord_blank blank] at split
            cases split
          · rw [splitWord_solid (Bool.eq_false_iff.mpr blank), List.cons_append] at split
            obtain ⟨start, behind⟩ := Prod.mk.inj split
            obtain ⟨rfl, inFront⟩ := List.cons.inj start
            obtain ⟨rest, rfl, same⟩ := induction (Prod.ext inFront behind)
            exact ⟨rest, rfl, same⟩

/-- A text that agrees in its words with one that starts with a part of a word starts with it as
well, and goes on with the same words. -/
theorem exists_rest_of_run (solid : ∀ character ∈ run, isBlank character = false)
    (same : splitWord (run ++ text) = splitWord other) :
    ∃ rest, other = run ++ rest ∧ splitWord text = splitWord rest := by
  rw [splitWord_run solid] at same
  obtain ⟨rest, whole, behind⟩ := exists_rest same.symm
  exact ⟨rest, whole, behind.symm⟩

/-- Where one text does not go on with a character of some class that has no blanks, nor does a
text that agrees with it in its words. -/
theorem stop_of_splitWord_eq (same : splitWord text = splitWord other) {accepts : Char → Bool}
    (solid : ∀ character, accepts character = true → isBlank character = false)
    (stop : ∀ character ∈ text.head?, accepts character = false) :
    ∀ character ∈ other.head?, accepts character = false := by
  intro character head
  cases accepted : accepts character with
  | false => rfl
  | true =>
      obtain ⟨rest, rfl⟩ := List.head?_eq_some_iff.mp head
      rw [splitWord_solid (solid character accepted)] at same
      obtain ⟨behind, rfl, _⟩ := @exists_rest _ [character] _ _ same
      rw [← accepted]
      exact stop character rfl

/-- Texts that start with no blank and have the same words agree in their first word. -/
theorem splitWord_eq_of_words_eq {first : Char} (same : words (character :: text) =
      words (first :: other)) (solid : isBlank character = false)
    (firstSolid : isBlank first = false) :
    splitWord (character :: text) = splitWord (first :: other) := by
  rw [words_solid solid, words_solid firstSolid] at same
  rw [splitWord_solid solid, splitWord_solid firstSolid]
  obtain ⟨start, behind⟩ := List.cons.inj same
  exact Prod.ext start behind

theorem words_eq_of_splitWord_eq (same : splitWord text = splitWord other) :
    words text = words other := by
  rw [words, words, same]

/-! ## Trimming and joining -/

theorem consWord_append (word : List Char) (words others : List (List Char)) :
    consWord word (words ++ others) = consWord word words ++ others := by
  unfold consWord
  split <;> rfl

/-- A blank ends a word: there are the words in front of it, and the words behind it. -/
theorem words_append_blank (blank : isBlank character = true) :
    words (text ++ character :: other) = words text ++ words other := by
  have split : splitWord (text ++ character :: other) =
      ((splitWord text).1, (splitWord text).2 ++ words other) := by
    induction text with
    | nil => exact splitWord_blank blank
    | cons first text induction =>
        rw [List.cons_append]
        by_cases firstBlank : isBlank first = true
        · rw [splitWord_blank firstBlank, splitWord_blank firstBlank, words_eq_consWord, induction,
            consWord_append]
          rfl
        · have solid := Bool.eq_false_iff.mpr firstBlank
          rw [splitWord_solid solid, splitWord_solid solid, induction]
  rw [words_eq_consWord, split, consWord_append]
  rfl

theorem words_trimStart (text : List Char) : words (trimStart text) = words text := by
  induction text with
  | nil => rfl
  | cons character text induction =>
      by_cases blank : isBlank character = true
      · rw [words_blank blank, trimStart_blank blank, induction]
      · rw [trimStart_solid (Bool.eq_false_iff.mpr blank)]

theorem words_trimEnd (text : List Char) : words (trimEnd text) = words text := by
  -- from the end of the text: a last blank has no words behind it
  rw [trimEnd, ← List.reverse_reverse text, List.reverse_reverse]
  induction text.reverse with
  | nil => rfl
  | cons character text induction =>
      by_cases blank : isBlank character = true
      · rw [List.reverse_cons, words_append_blank blank, trimStart_blank blank]
        exact induction.trans (List.append_nil _).symm
      · rw [trimStart_solid (Bool.eq_false_iff.mpr blank)]

theorem words_trim (text : List Char) : words (trim text) = words text := by
  rw [trim, words_trimEnd, words_trimStart]

structure IsWord (word : List Char) : Prop where
  nonempty : word ≠ []
  solid : ∀ character ∈ word, isBlank character = false

theorem consWord_isWord (solid : ∀ character ∈ word, isBlank character = false)
    (all : ∀ other ∈ others, IsWord other) : ∀ other ∈ consWord word others, IsWord other := by
  unfold consWord
  split
  · exact all
  · next nonempty =>
      refine List.forall_mem_cons.mpr ⟨⟨?_, solid⟩, all⟩
      exact fun empty => nonempty (List.isEmpty_iff.mpr empty)

theorem splitWord_isWord (text : List Char) :
    (∀ character ∈ (splitWord text).1, isBlank character = false) ∧
      ∀ word ∈ (splitWord text).2, IsWord word := by
  induction text with
  | nil => exact ⟨nofun, nofun⟩
  | cons character text induction =>
      by_cases blank : isBlank character = true
      · rw [splitWord_blank blank]
        exact ⟨nofun, consWord_isWord induction.1 induction.2⟩
      · have solid := Bool.eq_false_iff.mpr blank
        rw [splitWord_solid solid]
        exact ⟨List.forall_mem_cons.mpr ⟨solid, induction.1⟩, induction.2⟩

theorem words_isWord (text : List Char) : ∀ word ∈ words text, IsWord word :=
  consWord_isWord (splitWord_isWord text).1 (splitWord_isWord text).2

theorem words_of_isWord (isWord : IsWord word) : words word = [word] := by
  have split : splitWord word = (word, []) := by
    rw [← List.append_nil word, splitWord_run isWord.solid]
    simp [splitWord]
  rw [words_eq_consWord, split]
  exact if_neg fun empty => isWord.nonempty (List.isEmpty_iff.mp empty)

theorem unwords_cons_cons (word next : List Char) (others : List (List Char)) :
    unwords (word :: next :: others) = word ++ ' ' :: unwords (next :: others) := by
  simp [unwords, List.intercalate]

theorem words_unwords_of_isWord (all : ∀ word ∈ others, IsWord word) :
    words (unwords others) = others := by
  induction others with
  | nil => rfl
  | cons word others induction =>
      obtain ⟨isWord, rest⟩ := List.forall_mem_cons.mp all
      cases others with
      | nil =>
          have alone : unwords [word] = word := by simp [unwords, List.intercalate]
          rw [alone, words_of_isWord isWord]
      | cons next others =>
          rw [unwords_cons_cons, words_append_blank (by decide), words_of_isWord isWord,
            induction rest]
          rfl

theorem words_unwords (text : List Char) : words (unwords (words text)) = words text :=
  words_unwords_of_isWord (words_isWord text)

theorem unwords_concat (nonempty : others ≠ []) (word : List Char) :
    unwords (others ++ [word]) = unwords others ++ ' ' :: word := by
  induction others with
  | nil => exact absurd rfl nonempty
  | cons first others induction =>
      cases others with
      | nil => simp [unwords, List.intercalate]
      | cons next others =>
          rw [List.cons_append, List.cons_append, unwords_cons_cons, unwords_cons_cons,
            ← List.cons_append, induction (List.cons_ne_nil _ _), List.append_assoc]
          rfl

/-! ## What the words leave out -/

theorem mem_unwords (member : character ∈ unwords others) :
    character = ' ' ∨ ∃ word ∈ others, character ∈ word := by
  induction others with
  | nil => cases member
  | cons word others induction =>
      cases others with
      | nil =>
          rw [unwords, List.intercalate_singleton] at member
          exact .inr ⟨word, List.mem_cons_self, member⟩
      | cons next rest =>
          rw [unwords, List.intercalate_cons_cons, List.append_assoc, List.mem_append,
            List.singleton_append, List.mem_cons] at member
          rcases member with first | space | behind
          · exact .inr ⟨word, List.mem_cons_self, first⟩
          · exact .inl space
          · refine (induction behind).imp_right ?_
            rintro ⟨other, later, inside⟩
            exact ⟨other, List.mem_cons_of_mem _ later, inside⟩

theorem consWord_flatten (word : List Char) (words : List (List Char)) :
    (consWord word words).flatten = word ++ words.flatten := by
  unfold consWord
  split
  · next empty =>
      rw [List.isEmpty_iff.mp empty]
      rfl
  · rfl

/-- The words hold all characters of a text but its blanks. -/
theorem words_flatten (text : List Char) : (words text).flatten = text.filter (!isBlank ·) := by
  have split : (splitWord text).1 ++ (splitWord text).2.flatten = text.filter (!isBlank ·) := by
    induction text with
    | nil => rfl
    | cons character text induction =>
        by_cases blank : isBlank character = true
        · rw [splitWord_blank blank, List.filter_cons_of_neg (by simp [blank]), ← induction,
            words_eq_consWord, consWord_flatten]
          rfl
        · have solid := Bool.eq_false_iff.mpr blank
          rw [splitWord_solid solid, List.filter_cons_of_pos (by simp [solid]), ← induction]
          rfl
  rw [words_eq_consWord, consWord_flatten, split]

theorem flatMap_words (all : ∀ word ∈ others, IsWord word) : others.flatMap words = others := by
  induction others with
  | nil => rfl
  | cons word others induction =>
      obtain ⟨isWord, rest⟩ := List.forall_mem_cons.mp all
      rw [List.flatMap_cons, words_of_isWord isWord, induction rest]
      rfl

end Text

end Reckoner
