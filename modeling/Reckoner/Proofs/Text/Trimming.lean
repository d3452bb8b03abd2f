import Mathlib.Data.List.DropRight
import Reckoner.Text.Blank

/-!
# Trimming

Trimming takes the blanks at both ends away, and nothing else: what is left is `Trimmed`, a trimmed
text stays as it is (`Trimmed.trim_eq`), and nothing is left only of blanks (`trim_eq_nil_iff`).
-/

namespace Reckoner

namespace Text

variable {characters : List Char} {character : Char}

/-- No blank stands at either end. -/
structure Trimmed (characters : List Char) : Prop where
  head : ∀ character ∈ characters.head?, isBlank character = false
  last : ∀ character ∈ characters.getLast?, isBlank character = false

theorem trimStart_blank (blank : isBlank character = true) :
    trimStart (character :: characters) = trimStart characters :=
  List.dropWhile_cons_of_pos blank

theorem trimStart_solid (solid : isBlank character = false) :
    trimStart (character :: characters) = character :: characters :=
  List.dropWhile_cons_of_neg (Bool.eq_false_iff.mp solid)

theorem trimStart_eq_self (head : ∀ character ∈ characters.head?, isBlank character = false) :
    trimStart characters = characters := by
  cases characters with
  | nil => rfl
  | cons character rest => exact trimStart_solid (head character rfl)

theorem trim_initial : trim characters <+: trimStart characters :=
  List.rdropWhile_prefix isBlank (trimStart characters)

theorem head_trimStart (head : character ∈ (trimStart characters).head?) :
    isBlank character = false := by
  have kept := List.head?_dropWhile_not isBlank characters
  rw [Option.mem_def, trimStart] at head
  rw [head] at kept
  exact kept

theorem trimmed_trim (characters : List Char) : Trimmed (trim characters) := by
  constructor
  · intro character member
    obtain ⟨behind, whole⟩ := @trim_initial characters
    refine @head_trimStart characters character ?_
    cases kept : trim characters with
    | nil => simp [kept] at member
    | cons first rest =>
        rw [kept] at member whole
        rw [← whole]
        exact member
  · intro character member
    rw [trim, trimEnd, List.getLast?_reverse] at member
    exact head_trimStart member

theorem trim_eq_nil_iff : trim characters = [] ↔ ∀ character ∈ characters, isBlank character := by
  constructor
  · intro empty
    have blanks : ∀ character ∈ trimStart characters, isBlank character :=
      List.rdropWhile_eq_nil_iff.mp empty
    cases start : trimStart characters with
    | nil => exact List.dropWhile_eq_nil_iff.mp start
    | cons first rest =>
        have head : first ∈ (trimStart characters).head? := by rw [start, List.head?_cons]; rfl
        have blank := blanks first (by rw [start]; exact List.mem_cons_self)
        rw [head_trimStart head] at blank
        contradiction
  · intro blanks
    have start : trimStart characters = [] := List.dropWhile_eq_nil_iff.mpr blanks
    rw [trim, start]
    rfl

theorem trim_ne_nil (member : character ∈ characters)
    (notBlank : isBlank character = false) : trim characters ≠ [] := by
  intro empty
  have blank := trim_eq_nil_iff.mp empty character member
  rw [notBlank] at blank
  contradiction

theorem Trimmed.trim_eq (trimmed : Trimmed characters) : trim characters = characters := by
  have behind : ∀ character ∈ characters.reverse.head?, isBlank character = false := by
    rw [List.head?_reverse]
    exact trimmed.last
  rw [trim, trimEnd, trimStart_eq_self trimmed.head, trimStart_eq_self behind,
    List.reverse_reverse]

theorem trimEnd_append_blank (blank : isBlank character = true) :
    trimEnd (characters ++ [character]) = trimEnd characters := by
  rw [trimEnd, List.reverse_append, List.reverse_singleton, List.singleton_append,
    trimStart_blank blank]
  rfl

/-- A blank at the end is trimmed away. -/
theorem trim_append_blank (blank : isBlank character = true) :
    trim (characters ++ [character]) = trim characters := by
  have alone : trimStart [character] = [] := trimStart_blank blank
  unfold trim
  rw [trimStart, List.dropWhile_append]
  split
  · next blanks =>
      have nothing : trimStart characters = [] := List.isEmpty_iff.mp blanks
      exact congrArg trimEnd (alone.trans nothing.symm)
  · exact trimEnd_append_blank blank

/-- Trimming the end stops in the last part that is not blank. -/
theorem trimEnd_append {other : List Char} (member : character ∈ other)
    (notBlank : isBlank character = false) :
    trimEnd (characters ++ other) = characters ++ trimEnd other := by
  have kept : trimStart other.reverse ≠ [] := by
    intro empty
    have blank := List.dropWhile_eq_nil_iff.mp empty character (List.mem_reverse.mpr member)
    rw [notBlank] at blank
    contradiction
  unfold trimEnd
  rw [List.reverse_append, trimStart, List.dropWhile_append, if_neg]
  · rw [List.reverse_append, List.reverse_reverse]
    rfl
  · exact fun empty => kept (List.isEmpty_iff.mp empty)

theorem length_trim_le (characters : List Char) : (trim characters).length ≤ characters.length :=
  Nat.le_trans trim_initial.length_le (List.dropWhile_suffix isBlank).length_le

end Text

end Reckoner
