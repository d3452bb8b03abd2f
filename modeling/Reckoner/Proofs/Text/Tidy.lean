import Mathlib.Data.List.Chain
import Reckoner.Proofs.Text.Words

/-!
# Tidy texts

A tidy text consists of words with one space between each two.  It begins and ends with no blank, no
two blanks follow one another in it, and joining its words gives it back.  Tidy texts can be put
together with a space between them, or with none, which joins two words.
-/

namespace Reckoner

namespace Text

variable {word text other : List Char} {others : List (List Char)}

/-- Words with single spaces between them, at least one word. -/
inductive Tidy : List Char → Prop where
  | word {word : List Char} : IsWord word → Tidy word
  | next {word rest : List Char} : IsWord word → Tidy rest → Tidy (word ++ ' ' :: rest)

/-- Of two characters that follow one another at most one is a blank. -/
def Unrepeated (characters : List Char) : Prop :=
  characters.IsChain fun first second => isBlank first = false ∨ isBlank second = false

theorem IsWord.append (isWord : IsWord word) (otherWord : IsWord other) :
    IsWord (word ++ other) :=
  ⟨List.append_ne_nil_of_left_ne_nil isWord.nonempty other,
    List.forall_mem_append.mpr ⟨isWord.solid, otherWord.solid⟩⟩

theorem IsWord.unrepeated (isWord : IsWord word) : Unrepeated word :=
  (List.pairwise_of_forall_mem_list fun first member _ _ =>
    .inl (isWord.solid first member)).isChain

theorem isWord_singleton {character : Char} (solid : isBlank character = false) :
    IsWord [character] :=
  ⟨List.cons_ne_nil _ _, List.forall_mem_singleton.mpr solid⟩

namespace Tidy

theorem ne_nil (tidy : Tidy text) : text ≠ [] := by
  cases tidy with
  | word isWord => exact isWord.nonempty
  | next isWord _ => exact List.append_ne_nil_of_left_ne_nil isWord.nonempty _

theorem space (tidy : Tidy text) (otherTidy : Tidy other) : Tidy (text ++ ' ' :: other) := by
  induction tidy with
  | word isWord => exact .next isWord otherTidy
  | next isWord _ induction =>
      rw [List.append_assoc, List.cons_append]
      exact .next isWord induction

theorem behind (isWord : IsWord word) (tidy : Tidy text) : Tidy (word ++ text) := by
  cases tidy with
  | word otherWord => exact .word (isWord.append otherWord)
  | next otherWord rest =>
      rw [← List.append_assoc]
      exact .next (isWord.append otherWord) rest

theorem append (tidy : Tidy text) (otherTidy : Tidy other) : Tidy (text ++ other) := by
  induction tidy with
  | word isWord => exact otherTidy.behind isWord
  | next isWord _ induction =>
      rw [List.append_assoc, List.cons_append]
      exact .next isWord induction

theorem unwords_words (tidy : Tidy text) : unwords (words text) = text := by
  induction tidy with
  | word isWord => rw [words_of_isWord isWord, unwords, List.intercalate_singleton]
  | @next word rest isWord tidy induction =>
      rw [words_append_blank (by decide), words_of_isWord isWord, List.singleton_append]
      cases all : words rest with
      | nil =>
          rw [all] at induction
          exact absurd induction.symm tidy.ne_nil
      | cons next others => rw [unwords_cons_cons, ← all, induction]

theorem trimmed (tidy : Tidy text) : Trimmed text := by
  constructor
  · intro character head
    cases tidy with
    | word isWord => exact isWord.solid character (List.mem_of_head? head)
    | next isWord _ =>
        rw [List.head?_append_of_ne_nil _ isWord.nonempty] at head
        exact isWord.solid character (List.mem_of_head? head)
  · intro character last
    induction tidy with
    | word isWord => exact isWord.solid character (List.mem_of_getLast? last)
    | next _ rest induction =>
        rw [List.append_cons, List.getLast?_append_of_ne_nil _ rest.ne_nil] at last
        exact induction last

theorem unrepeated (tidy : Tidy text) : Unrepeated text := by
  induction tidy with
  | word isWord => exact isWord.unrepeated
  | next isWord rest induction =>
      refine List.isChain_append.mpr ⟨isWord.unrepeated, List.isChain_cons.mpr ⟨?_, induction⟩, ?_⟩
      · exact fun first head => .inr (rest.trimmed.head first head)
      · exact fun last member _ _ => .inl (isWord.solid last (List.mem_of_getLast? member))

end Tidy

theorem tidy_unwords (nonempty : others ≠ []) (all : ∀ word ∈ others, IsWord word) :
    Tidy (unwords others) := by
  induction others with
  | nil => exact absurd rfl nonempty
  | cons word others induction =>
      obtain ⟨isWord, rest⟩ := List.forall_mem_cons.mp all
      cases others with
      | nil =>
          rw [unwords, List.intercalate_singleton]
          exact .word isWord
      | cons next others =>
          rw [unwords_cons_cons]
          exact .next isWord (induction (List.cons_ne_nil _ _) rest)

end Text

end Reckoner
