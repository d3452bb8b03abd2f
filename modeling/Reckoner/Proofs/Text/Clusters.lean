import Reckoner.Proofs.Text.Columns
import Reckoner.Text.Cluster

/-!
# The clusters of a text

Of the clusters of a text the rest relies on three rules only, whatever else belongs together.  They
are the text, one behind the other (`flatten_clusters`); none of them is empty (`clusters_ne_nil`);
and the characters of ASCII that can be printed stand alone (`clusters_printable`).
-/

namespace Reckoner

namespace Text

variable {closed : List (List Char)} {current text cluster : List Char} {state : ClusterState}

theorem flatten_clustersFrom :
    (clustersFrom closed current state text).flatten =
      closed.reverse.flatten ++ current.reverse ++ text := by
  induction text generalizing closed current state with
  | nil => simp [clustersFrom]
  | cons character text induction =>
      rw [clustersFrom]
      split <;> simp [induction]

theorem flatten_clusters (text : List Char) : (clusters text).flatten = text := by
  cases text with
  | nil => rfl
  | cons character text => exact flatten_clustersFrom

theorem clustersFrom_ne_nil (nonempty : current ≠ []) (closedNonempty : ∀ part ∈ closed, part ≠ [])
    (member : cluster ∈ clustersFrom closed current state text) : cluster ≠ [] := by
  induction text generalizing closed current state with
  | nil =>
      rw [clustersFrom, List.mem_reverse, List.mem_cons] at member
      rcases member with rfl | earlier
      · exact List.reverse_ne_nil_iff.mpr nonempty
      · exact closedNonempty cluster earlier
  | cons character text induction =>
      rw [clustersFrom] at member
      split at member
      · exact induction (List.cons_ne_nil _ _) closedNonempty member
      · have finished := List.reverse_ne_nil_iff.mpr nonempty
        exact induction (List.cons_ne_nil _ _)
          (List.forall_mem_cons.mpr ⟨finished, closedNonempty⟩) member

theorem clusters_ne_nil (member : cluster ∈ clusters text) : cluster ≠ [] := by
  cases text with
  | nil => cases member
  | cons character text =>
      exact clustersFrom_ne_nil (List.cons_ne_nil _ _) (List.forall_mem_nil _) member

theorem clusterRole_printable {character : Char} (printable : isPrintable character = true) :
    clusterRole character = .other := by
  simp only [isPrintable, Bool.and_eq_true, decide_eq_true_eq] at printable
  have outside : controlRanges.all (fun range => range.2 < 0x20 || 0x7E < range.1) = true := by
    decide
  have noControl : controlRanges.contains character.toNat = false := by
    rw [Ranges.contains, List.any_eq_false]
    intro range member
    have apart := List.all_eq_true.mp outside range member
    simp only [Bool.or_eq_true, decide_eq_true_eq] at apart
    simp only [Bool.and_eq_true, decide_eq_true_eq]
    omega
  rw [clusterRole, if_pos (by omega), noControl, if_neg Bool.false_ne_true]

theorem clustersFrom_printable {first : Char} (printable : text.all isPrintable = true) :
    clustersFrom closed [first] (.start .other) text =
      closed.reverse ++ [first] :: text.map fun character => [character] := by
  induction text generalizing closed first with
  | nil => simp [clustersFrom]
  | cons character text induction =>
      obtain ⟨alone, others⟩ := Bool.and_eq_true_iff.mp (List.all_cons.symm.trans printable)
      have noFeed : character ≠ '\n' := by
        rintro rfl
        exact absurd alone (by decide)
      have apart : (ClusterState.start .other).continues .other = false := rfl
      rw [clustersFrom, clusterRole_printable alone]
      simp [apart, noFeed, induction others]

theorem clusters_printable (printable : text.all isPrintable = true) :
    clusters text = text.map fun character => [character] := by
  cases text with
  | nil => rfl
  | cons first text =>
      obtain ⟨alone, others⟩ := Bool.and_eq_true_iff.mp (List.all_cons.symm.trans printable)
      rw [clusters, clusterRole_printable alone]
      exact clustersFrom_printable others

/-- A character of some parts together stands in one of them. -/
theorem exists_part {parts : List (List Char)} {index : Nat} {character : Char}
    (found : parts.flatten[index]? = some character) :
    ∃ front before after back, parts = front ++ (before ++ character :: after) :: back ∧
      (front.flatten ++ before).length = index := by
  induction parts generalizing index with
  | nil => cases found
  | cons part parts induction =>
      rw [List.flatten_cons] at found
      by_cases inside : index < part.length
      · rw [List.getElem?_append_left inside] at found
        obtain ⟨_, same⟩ := List.getElem?_eq_some_iff.mp found
        refine ⟨[], part.take index, part.drop (index + 1), parts, ?_, ?_⟩
        · rw [← same, ← List.drop_eq_getElem_cons inside, List.take_append_drop, List.nil_append]
        · rw [List.flatten_nil, List.nil_append, List.length_take]
          omega
      · rw [List.getElem?_append_right (Nat.le_of_not_lt inside)] at found
        obtain ⟨front, before, after, back, rfl, length⟩ := induction found
        refine ⟨part :: front, before, after, back, rfl, ?_⟩
        rw [List.flatten_cons, List.append_assoc, List.length_append, length]
        omega

theorem Unjoined.columnsOfAll_clusters [ScreenWidths] (unjoined : Unjoined text) :
    columnsOfAll (clusters text) = columns text := by
  have parts : Unjoined (clusters text).flatten := by rwa [flatten_clusters]
  rw [parts.columnsOfAll_eq, flatten_clusters]

end Text

end Reckoner
