import Reckoner.Proofs.Session.Preview

/-!
# Entering a line again

The history keeps the expression of a line, without blanks around it and without the keyword.  The
expression is no line: entered again, it is compared with the command words and searched for the
keyword once more.  `Request.Verbatim` holds of the texts that come through this as they are, and
submitting the input of an entry repeats the entry exactly if it is one of them
(`Session.submit_again_iff`).

Whatever was entered without the keyword can be repeated (`Session.Plain.run`).
-/

namespace Reckoner

namespace Request

/-- The line is no command word, and the keyword stands neither in front nor behind, in any letter
case. -/
structure Verbatim (line : List Char) : Prop where
  noCommand : Command.isWord line = false
  notInFront : Text.equalIgnoringAsciiCase (line.take 8) (keyword ++ [' ']) = false
  notBehind : Text.equalIgnoringAsciiCase (line.drop (line.length - 8)) (' ' :: keyword) = false

variable {line : List Char}

theorem Verbatim.ofLine_eq (verbatim : Verbatim line) : ofLine line = ⟨false, line⟩ := by
  have notInFront := Bool.eq_false_iff.mp verbatim.notInFront
  have notBehind := Bool.eq_false_iff.mp verbatim.notBehind
  unfold ofLine
  exact (if_neg notInFront).trans (if_neg fun both => notBehind both.2)

/-- A text in which the keyword is found has at least its length. -/
theorem length_of_keyword {text word : List Char}
    (same : Text.equalIgnoringAsciiCase text word = true) : text.length = word.length := by
  have lowered := congrArg List.length (beq_iff_eq.mp same)
  rwa [List.length_map, List.length_map] at lowered

/-- Where the keyword stands it is taken away, and what is left is shorter. -/
theorem ofLine_cases (line : List Char) :
    ((ofLine line).detailed = true ∧ (ofLine line).expression.length < line.length) ∨
      ofLine line = ⟨false, line⟩ ∧
        Text.equalIgnoringAsciiCase (line.take 8) (keyword ++ [' ']) = false ∧
        Text.equalIgnoringAsciiCase (line.drop (line.length - 8)) (' ' :: keyword) = false := by
  have count : keyword.length + 1 = 8 := rfl
  have shorter : ∀ {left : List Char}, left.length < line.length →
      (Text.trim left).length < line.length :=
    Nat.lt_of_le_of_lt (Text.length_trim_le _)
  unfold ofLine
  dsimp only
  rw [count]
  split
  · next same =>
      have length := length_of_keyword same
      rw [List.length_take, List.length_append, List.length_singleton, count] at length
      refine .inl ⟨rfl, shorter ?_⟩
      rw [List.length_drop]
      omega
  · next notInFront =>
      split
      · next same =>
          refine .inl ⟨rfl, shorter ?_⟩
          rw [List.length_take]
          omega
      · next notBehind =>
          refine .inr ⟨rfl, Bool.eq_false_iff.mpr notInFront, Bool.eq_false_iff.mpr ?_⟩
          intro same
          have length := length_of_keyword same
          rw [List.length_drop, List.length_cons, count] at length
          exact notBehind ⟨by omega, same⟩

/-- The expression of a line is the line itself exactly if the keyword stands at neither end. -/
theorem verbatim_iff :
    Verbatim line ↔ Command.ofLine? line = none ∧ (ofLine line).expression = line := by
  constructor
  · intro verbatim
    refine ⟨Command.ofLine?_eq_none_iff_isWord.mpr verbatim.noCommand, ?_⟩
    rw [verbatim.ofLine_eq]
  · rintro ⟨noCommand, same⟩
    rcases ofLine_cases line with ⟨_, shorter⟩ | ⟨_, notInFront, notBehind⟩
    · rw [same] at shorter
      exact absurd shorter (Nat.lt_irrefl _)
    · exact ⟨Command.ofLine?_eq_none_iff_isWord.mp noCommand, notInFront, notBehind⟩

end Request

namespace Session

variable {session : Session} {text : String}

/-- Submitting a trimmed text adds an entry with this very text as its input exactly if it comes
through as it is. -/
theorem submit_again_iff (trimmed : Text.Trimmed text.toList) (nonempty : text ≠ "") :
    ((session.submit text).1 = .evaluated ∧
      ∃ again, (session.submit text).2.history = session.history ++ [again] ∧
        again.input = text) ↔ Request.Verbatim text.toList := by
  have characters : (Text.trim text.toList).isEmpty = false := by
    rw [trimmed.trim_eq, List.isEmpty_eq_false_iff]
    exact fun empty => nonempty (String.toList_eq_nil_iff.mp empty)
  have evaluated : Command.ofLine? text.toList = none →
      session.submit text = (.evaluated, session.evaluate (Request.ofLine text.toList)) := by
    intro noCommand
    have submitted := @submit_eq_evaluate session text characters
    rw [trimmed.trim_eq] at submitted
    exact submitted noCommand
  have input : (session.added (Request.ofLine text.toList)).input = text ↔
      (Request.ofLine text.toList).expression = text.toList := by
    rw [added, ← String.toList_inj, String.toList_ofList]
  rw [submit_evaluated_iff, Request.verbatim_iff, ← input, trimmed.trim_eq]
  constructor
  · rintro ⟨⟨_, noCommand⟩, again, history, same⟩
    refine ⟨noCommand, ?_⟩
    rw [evaluated noCommand, evaluate_history] at history
    obtain rfl := List.singleton_inj.mp (List.append_cancel_left history)
    exact same
  · rintro ⟨noCommand, same⟩
    rw [trimmed.trim_eq] at characters
    refine ⟨⟨characters, noCommand⟩, _, ?_, same⟩
    rw [evaluated noCommand, evaluate_history]

/-- A line adds an entry for its request, or empties the history, or leaves it alone. -/
theorem history_of_submit (session : Session) (line : String) :
    (Command.ofLine? (Text.trim line.toList) = none ∧
      (session.submit line).2.history =
        session.history ++ [session.added (Request.ofLine (Text.trim line.toList))]) ∨
      (session.submit line).2.history = [] ∨ (session.submit line).2.history = session.history := by
  rcases session.submit_cases line with
    ⟨request, _, _, submitted⟩ | submitted | ⟨outcome, _, _, submitted⟩
  · have evaluated : (session.submit line).1 = .evaluated := congrArg Prod.fst submitted
    obtain ⟨nonempty, noCommand⟩ := submit_evaluated_iff.mp evaluated
    refine .inl ⟨noCommand, ?_⟩
    rw [submit_eq_evaluate nonempty noCommand, evaluate_history]
  · rw [submitted]
    exact .inr (.inl rfl)
  · rw [submitted]
    exact .inr (.inr rfl)

/-- What was entered without the keyword comes through as it is. -/
def Plain (session : Session) : Prop :=
  ∀ entry ∈ session.history, entry.detailed = false → Request.Verbatim entry.input.toList

theorem Plain.submit (plain : Plain session) (line : String) : Plain (session.submit line).2 := by
  unfold Plain
  rcases history_of_submit session line with ⟨noCommand, history⟩ | history | history
  · rw [history]
    refine List.forall_mem_append.mpr ⟨plain, List.forall_mem_singleton.mpr ?_⟩
    intro notDetailed
    rcases Request.ofLine_cases (Text.trim line.toList) with
      ⟨detailed, _⟩ | ⟨same, notInFront, notBehind⟩
    · cases detailed.symm.trans notDetailed
    · rw [added, same, String.toList_ofList]
      exact ⟨Command.ofLine?_eq_none_iff_isWord.mp noCommand, notInFront, notBehind⟩
  · rw [history]
    exact List.forall_mem_nil _
  · rw [history]
    exact plain

theorem Plain.run (plain : Plain session) (calls : List Call) : Plain (session.run calls).2 := by
  induction calls generalizing session with
  | nil => exact plain
  | cons call calls induction =>
      cases call with
      | submit line => exact induction (plain.submit line)
      | preview line => exact induction plain
      | pretty text => exact induction plain
      | clear => exact @induction session.clear nofun

end Session

end Reckoner
