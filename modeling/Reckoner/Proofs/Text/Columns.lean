import Reckoner.Text.Widths

/-!
# How wide a text is

A text is as wide as its characters together if no character makes the one in front of it share its
columns (`Unjoined`), which only a line feed and U+200D can do.  So the parts of such a text take its
columns together (`Unjoined.columnsOfAll_eq`), and a text of characters of one column each has as many
columns as characters (`columns_of_single`).
-/

namespace Reckoner

namespace Text

variable {character : Char} {text left right : List Char}

theorem Unjoined.append (leftUnjoined : Unjoined left) (rightUnjoined : Unjoined right) :
    Unjoined (left ++ right) :=
  List.forall_mem_append.mpr ⟨leftUnjoined, rightUnjoined⟩

theorem Unjoined.of_subset (unjoined : Unjoined text) (subset : left ⊆ text) : Unjoined left :=
  fun character member => unjoined character (subset member)

section Measures

variable [Widths]

/-- The columns of several texts, each measured on its own. -/
def columnsOfAll : List (List Char) → Nat
  | [] => 0
  | part :: parts => columns part + columnsOfAll parts

/-- The characters of the text take one column each. -/
def Single (text : List Char) : Prop :=
  ∀ character ∈ text, columnsOf character = 1

theorem Single.of_all (all : text.all (columnsOf · == 1) = true) : Single text :=
  fun character member => beq_iff_eq.mp (List.all_eq_true.mp all character member)

theorem Single.of_subset (single : Single text) (subset : left ⊆ text) : Single left :=
  fun character member => single character (subset member)

end Measures

variable [ScreenWidths]

theorem Unjoined.columns_append (leftUnjoined : Unjoined left) (rightUnjoined : Unjoined right) :
    columns (left ++ right) = columns left + columns right := by
  induction left with
  | nil => rw [List.nil_append, columns_nil, Nat.zero_add]
  | cons character left induction =>
      have behind : Unjoined left := leftUnjoined.of_subset (List.subset_cons_self _ _)
      rw [List.cons_append, columns_cons_unjoined character (behind.append rightUnjoined),
        columns_cons_unjoined character behind, induction behind, Nat.add_assoc]

/-- The parts of a text in which no columns are shared take its columns together. -/
theorem Unjoined.columnsOfAll_eq {parts : List (List Char)} (unjoined : Unjoined parts.flatten) :
    columnsOfAll parts = columns parts.flatten := by
  induction parts with
  | nil => exact columns_nil.symm
  | cons part parts induction =>
      rw [List.flatten_cons] at unjoined ⊢
      have first := unjoined.of_subset (List.subset_append_left _ _)
      have rest := unjoined.of_subset (List.subset_append_right _ _)
      rw [columnsOfAll, induction rest, first.columns_append rest]

theorem Single.unjoined (single : Single text) : Unjoined text := by
  intro character member
  have one : columns [character] = 1 := single character member
  constructor
  · rintro rfl
    rw [columns_lineFeed] at one
    contradiction
  · rintro rfl
    rw [columns_joiner] at one
    contradiction

theorem Single.of_printable (all : text.all isPrintable = true) : Single text :=
  fun character member => columns_printable (List.all_eq_true.mp all character member)

theorem columns_of_single (single : Single text) : columns text = text.length := by
  induction text with
  | nil => exact columns_nil
  | cons character text induction =>
      obtain ⟨one, rest⟩ := List.forall_mem_cons.mp single
      have unjoined : Unjoined text := Single.unjoined rest
      have first : columns [character] = 1 := one
      rw [columns_cons_unjoined character unjoined, first, induction rest, List.length_cons,
        Nat.add_comm]

end Text

end Reckoner
