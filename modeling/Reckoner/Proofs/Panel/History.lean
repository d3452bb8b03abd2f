import Reckoner.Panel.History
import Reckoner.Proofs.Session.Entries

/-!
# The rows of the entries

The history shows its entries one below the other, with a rule between two of them.  So an entry
starts behind the rows of the entries above it and as many rules (`Panel.rowsAbove`), and there its
rows stand (`Panel.historyRows_getElem?`).  These are the starts that the panel notes
(`Panel.startsFrom_getElem?`).  An entry whose input is not blank has a first row
(`Panel.entryRows_ne_nil`).
-/

namespace Reckoner

open Terminal (Line)

namespace Panel

variable {blocks : List (List Line)} {block : List Line} {index place start : Nat}

/-- The rows above an entry: those of all entries above, and a rule below each of them. -/
def rowsAbove (blocks : List (List Line)) (index : Nat) : Nat :=
  (blocks.take index).flatten.length + index

@[simp] theorem rowsAbove_zero (blocks : List (List Line)) : rowsAbove blocks 0 = 0 := rfl

@[simp] theorem rowsAbove_succ (block : List Line) (blocks : List (List Line)) (index : Nat) :
    rowsAbove (block :: blocks) (index + 1) = block.length + 1 + rowsAbove blocks index := by
  rw [rowsAbove, List.take_succ_cons, List.flatten_cons, List.length_append, rowsAbove]
  omega

/-! ## The starts of the entries -/

theorem length_startsFrom (start : Nat) (blocks : List (List Line)) :
    (startsFrom start blocks).length = blocks.length := by
  induction blocks generalizing start with
  | nil => rfl
  | cons block blocks induction => exact congrArg (· + 1) (induction _)

theorem startsFrom_getElem? (inside : index < blocks.length) :
    (startsFrom start blocks)[index]? = some (start + rowsAbove blocks index) := by
  induction blocks generalizing index start with
  | nil => cases inside
  | cons block blocks induction =>
      cases index with
      | zero => rfl
      | succ index =>
          rw [startsFrom, List.getElem?_cons_succ, induction (Nat.lt_of_succ_lt_succ inside),
            rowsAbove_succ]
          congr 1
          omega

theorem le_of_mem_startsFrom (member : place ∈ startsFrom start blocks) : start ≤ place := by
  induction blocks generalizing start with
  | nil => cases member
  | cons block blocks induction =>
      rcases List.mem_cons.mp member with rfl | behind
      · exact Nat.le_refl _
      · have later := induction behind
        omega

theorem startsFrom_increasing (start : Nat) (blocks : List (List Line)) :
    (startsFrom start blocks).Pairwise (· < ·) := by
  induction blocks generalizing start with
  | nil => exact .nil
  | cons block blocks induction =>
      refine .cons (fun place member => ?_) (induction _)
      have later := le_of_mem_startsFrom member
      omega

/-! ## Where the rows stand -/

theorem historyRows_cons (width : Nat) (block : List Line) (nonempty : blocks ≠ []) :
    historyRows width (block :: blocks) = block ++ ruleRow width :: historyRows width blocks := by
  rw [historyRows, List.intercalate_cons_of_ne_nil nonempty, List.append_assoc]
  rfl

theorem historyRows_singleton (width : Nat) (block : List Line) :
    historyRows width [block] = block :=
  List.intercalate_singleton

/-- The rows of an entry stand together, below the rows above it. -/
theorem historyRows_getElem? (width : Nat) (found : blocks[index]? = some block)
    (inside : place < block.length) :
    (historyRows width blocks)[rowsAbove blocks index + place]? = block[place]? := by
  induction blocks generalizing index with
  | nil => cases found
  | cons head blocks induction =>
      cases index with
      | zero =>
          obtain rfl : head = block := Option.some.inj found
          rw [rowsAbove_zero, Nat.zero_add]
          cases blocks with
          | nil => rw [historyRows_singleton]
          | cons next others =>
              rw [historyRows_cons width head (List.cons_ne_nil _ _),
                List.getElem?_append_left inside]
      | succ index =>
          have foundBehind : blocks[index]? = some block := found
          have nonempty : blocks ≠ [] := by
            rintro rfl
            cases foundBehind
          have behind : rowsAbove (head :: blocks) (index + 1) + place =
              head.length + (rowsAbove blocks index + place + 1) := by
            rw [rowsAbove_succ]
            omega
          rw [historyRows_cons width head nonempty, behind,
            List.getElem?_append_right (Nat.le_add_right _ _), Nat.add_sub_cancel_left,
            List.getElem?_cons_succ, induction foundBehind]

/-- Nothing stands below the last entry. -/
theorem length_historyRows (width : Nat) (blocks : List (List Line)) (block : List Line) :
    (historyRows width (blocks ++ [block])).length =
      rowsAbove (blocks ++ [block]) blocks.length + block.length := by
  induction blocks with
  | nil =>
      rw [List.nil_append, historyRows_singleton, List.length_nil, rowsAbove_zero, Nat.zero_add]
  | cons head blocks induction =>
      have nonempty : blocks ++ [block] ≠ [] :=
        List.append_ne_nil_of_right_ne_nil _ (List.cons_ne_nil _ _)
      rw [List.cons_append, historyRows_cons width head nonempty, List.length_append,
        List.length_cons, induction, List.length_cons, rowsAbove_succ]
      omega

/-! ## The rows of one entry -/

theorem appendToFirst_ne_nil (spans : Line) {lines : List Line} (nonempty : lines ≠ []) :
    appendToFirst spans lines ≠ [] := by
  cases lines with
  | nil => exact absurd rfl nonempty
  | cons first rest => exact List.cons_ne_nil _ _

theorem entryRows_ne_nil [Text.Widths] (session : Session) (width : Nat) (selected : Bool)
    {entry : Entry} (nonempty : Text.words entry.input.toList ≠ []) :
    entryRows session width selected entry ≠ [] := by
  have wrapped := Text.wrap_ne_nil width (session.words_pretty_ne_nil nonempty)
  apply List.append_ne_nil_of_left_ne_nil
  apply appendToFirst_ne_nil
  intro empty
  exact wrapped (List.mapIdx_eq_nil_iff.mp empty)

end Panel

end Reckoner
