import Mathlib.Data.List.Basic

/-!
# Matching parentheses

The usual matching of parentheses over the characters of a text, apart from any reader: an opening
and a closing parenthesis are partners if what stands between them is balanced.  `Leaves` says which
opening parentheses a text leaves open, if it closes no others than it opens.  The innermost of them
is the last one of the text that has no partner, and a closing parenthesis behind a text that leaves
nothing open has none either.
-/

namespace Reckoner

namespace Text

/-- Every parenthesis has a partner. -/
inductive Balanced : List Char → Prop where
  | nil : Balanced []
  | plain {character : Char} {text : List Char} :
      character ≠ '(' → character ≠ ')' → Balanced text → Balanced (character :: text)
  | group {inside text : List Char} :
      Balanced inside → Balanced text → Balanced ('(' :: (inside ++ ')' :: text))

/-- An opening parenthesis and a closing one, at these places, belong together. -/
def Partners (text : List Char) (opening closing : Nat) : Prop :=
  ∃ before inside behind, text = before ++ '(' :: (inside ++ ')' :: behind) ∧
    opening = before.length ∧ closing = before.length + 1 + inside.length ∧ Balanced inside

/-- The places of the opening parentheses that are left open, the innermost first. -/
inductive Leaves : List Char → List Nat → Prop where
  | balanced {text : List Char} : Balanced text → Leaves text []
  | opened {before inside : List Char} {positions : List Nat} :
      Leaves before positions → Balanced inside →
      Leaves (before ++ '(' :: inside) (before.length :: positions)

variable {text before inside behind front : List Char} {positions : List Nat}
  {opening closing position : Nat}

theorem balanced_of_plain (plain : ∀ character ∈ text, character ≠ '(' ∧ character ≠ ')') :
    Balanced text := by
  induction text with
  | nil => exact .nil
  | cons character text induction =>
      obtain ⟨⟨noLeft, noRight⟩, others⟩ := List.forall_mem_cons.mp plain
      exact .plain noLeft noRight (induction others)

theorem Balanced.append (balanced : Balanced text) (later : Balanced behind) :
    Balanced (text ++ behind) := by
  induction balanced with
  | nil => exact later
  | plain noLeft noRight _ induction => exact .plain noLeft noRight induction
  | group insideBalanced _ _ induction =>
      rw [List.cons_append, List.append_assoc, List.cons_append]
      exact .group insideBalanced induction

theorem Balanced.count_eq (balanced : Balanced text) : text.count '(' = text.count ')' := by
  induction balanced with
  | nil => rfl
  | plain noLeft noRight _ induction =>
      rw [List.count_cons_of_ne noLeft, List.count_cons_of_ne noRight, induction]
  | group _ _ inner induction =>
      simp only [List.count_cons_self, List.count_append, inner, induction,
        List.count_cons_of_ne (show '(' ≠ ')' by decide),
        List.count_cons_of_ne (show ')' ≠ '(' by decide)]
      omega

/-- A beginning of a balanced text closes no more than it opens. -/
theorem Balanced.count_front_le (balanced : Balanced text) (whole : text = front ++ behind) :
    front.count ')' ≤ front.count '(' := by
  induction balanced generalizing front behind with
  | nil => simp [(List.append_eq_nil_iff.mp whole.symm).1]
  | plain noLeft noRight _ induction =>
      cases front with
      | nil => exact Nat.le_refl _
      | cons first front =>
          obtain ⟨rfl, same⟩ := List.cons.inj whole
          rw [List.count_cons_of_ne noLeft, List.count_cons_of_ne noRight]
          exact induction same
  | @group inside text insideBalanced _ inner induction =>
      cases front with
      | nil => exact Nat.le_refl _
      | cons first front =>
          obtain ⟨rfl, same⟩ := List.cons.inj whole
          rw [List.count_cons_self, List.count_cons_of_ne (by decide)]
          rcases List.append_eq_append_iff.mp same with ⟨others, rfl, rest⟩ | ⟨others, rfl, _⟩
          · have equal := insideBalanced.count_eq
            rw [List.count_append, List.count_append]
            cases others with
            | nil => simp; omega
            | cons second others =>
                obtain ⟨rfl, split⟩ := List.cons.inj rest
                have later := induction split
                rw [List.count_cons_self, List.count_cons_of_ne (by decide)]
                omega
          · exact Nat.le_succ_of_le (inner rfl)

/-- An ending of a balanced text opens no more than it closes. -/
theorem Balanced.count_behind_le (balanced : Balanced text) (whole : text = front ++ behind) :
    behind.count '(' ≤ behind.count ')' := by
  have equal := balanced.count_eq
  have inFront := balanced.count_front_le whole
  rw [whole, List.count_append, List.count_append] at equal
  omega

/-- Partners stay partners where something is added around the text. -/
theorem Partners.around (partners : Partners text opening closing) (front behind : List Char) :
    Partners (front ++ (text ++ behind)) (front.length + opening) (front.length + closing) := by
  obtain ⟨before, inside, others, rfl, rfl, rfl, balanced⟩ := partners
  refine ⟨front ++ before, inside, others ++ behind, by simp, by simp, ?_, balanced⟩
  rw [List.length_append]
  omega

theorem Balanced.exists_partner (balanced : Balanced text) (found : text[opening]? = some '(') :
    ∃ closing, Partners text opening closing := by
  induction balanced generalizing opening with
  | nil => simp at found
  | @plain character text noLeft _ _ induction =>
      cases opening with
      | zero => exact absurd (Option.some.inj found) noLeft
      | succ opening =>
          obtain ⟨closing, partners⟩ := induction found
          have around := partners.around [character] []
          rw [List.append_nil] at around
          rw [Nat.add_comm opening]
          exact ⟨_, around⟩
  | @group inside text insideBalanced _ inner induction =>
      cases opening with
      | zero => exact ⟨_, [], inside, text, rfl, rfl, rfl, insideBalanced⟩
      | succ opening =>
          rw [List.getElem?_cons_succ] at found
          by_cases within : opening < inside.length
          · rw [List.getElem?_append_left within] at found
            obtain ⟨closing, partners⟩ := inner found
            rw [Nat.add_comm opening]
            exact ⟨_, partners.around ['('] (')' :: text)⟩
          · obtain ⟨later, rfl⟩ := Nat.exists_eq_add_of_le (Nat.not_lt.mp within)
            rw [List.getElem?_append_right (Nat.not_lt.mp within), Nat.add_sub_cancel_left] at found
            cases later with
            | zero => simp at found
            | succ later =>
                obtain ⟨closing, partners⟩ := induction found
                have around := partners.around ('(' :: (inside ++ [')'])) []
                have place : ('(' :: (inside ++ [')'])).length + later =
                    inside.length + (later + 1) + 1 := by
                  simp
                  omega
                rw [List.append_nil, place] at around
                exact ⟨_, by simpa using around⟩

/-- What is balanced leaves open what has been open before. -/
theorem Leaves.append (leaves : Leaves text positions) (balanced : Balanced behind) :
    Leaves (text ++ behind) positions := by
  cases leaves with
  | balanced textBalanced => exact .balanced (textBalanced.append balanced)
  | opened leaves inside =>
      rw [List.append_assoc, List.cons_append]
      exact .opened leaves (inside.append balanced)

theorem Leaves.open (leaves : Leaves text positions) :
    Leaves (text ++ ['(']) (text.length :: positions) :=
  .opened leaves .nil

theorem Leaves.close (leaves : Leaves text (position :: positions)) :
    Leaves (text ++ [')']) positions := by
  cases leaves with
  | opened leaves inside =>
      rw [List.append_assoc, List.cons_append]
      exact leaves.append (.group inside .nil)

/-- A closing parenthesis that finds nothing open has no partner. -/
theorem Leaves.not_partners (leaves : Leaves before []) (behind : List Char) (opening : Nat) :
    ¬ Partners (before ++ ')' :: behind) opening before.length := by
  rintro ⟨others, inside, later, whole, _, place, balanced⟩
  cases leaves with
  | balanced textBalanced =>
      rw [← List.cons_append, ← List.append_assoc] at whole
      have length : before.length = (others ++ '(' :: inside).length := by
        rw [place, List.length_append, List.length_cons]
        omega
      have same := (List.append_inj whole length).1
      have counted := textBalanced.count_behind_le same
      rw [List.count_cons_self, List.count_cons_of_ne (by decide), balanced.count_eq] at counted
      omega

/-- The innermost parenthesis that is left open is the last one without a partner. -/
theorem Leaves.last_open (leaves : Leaves text (position :: positions)) :
    text[position]? = some '(' ∧ (∀ closing, ¬ Partners text position closing) ∧
      ∀ later, position < later → text[later]? = some '(' →
        ∃ closing, Partners text later closing := by
  cases leaves with
  | @opened before inside _ leaves balanced =>
      refine ⟨by simp, ?_, ?_⟩
      · rintro closing ⟨others, within, behind, whole, place, _, withinBalanced⟩
        have same := (List.append_inj whole place).2
        have split : inside = (within ++ [')']) ++ behind := by simpa using same
        have counted := balanced.count_front_le split
        rw [List.count_append, List.count_append, withinBalanced.count_eq] at counted
        have opens : [')'].count '(' = 0 := by decide
        have closes : [')'].count ')' = 1 := by decide
        omega
      · intro later above found
        obtain ⟨offset, rfl⟩ := Nat.exists_eq_add_of_lt above
        rw [List.getElem?_append_right (by omega)] at found
        have shift : before.length + offset + 1 - before.length = offset + 1 := by omega
        rw [shift, List.getElem?_cons_succ] at found
        obtain ⟨closing, partners⟩ := balanced.exists_partner found
        have around := partners.around (before ++ ['(']) []
        have place : (before ++ ['(']).length + offset = before.length + offset + 1 := by
          simp
          omega
        rw [List.append_nil, place] at around
        exact ⟨_, by simpa using around⟩

end Text

end Reckoner
