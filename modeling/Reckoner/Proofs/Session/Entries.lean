import Reckoner.Proofs.Expr.Characters
import Reckoner.Proofs.Session.Replay
import Reckoner.Proofs.Text.Wrapping

/-!
# The entries of the history

A line that is evaluated asks for an expression that is not blank, so the input of every entry has
words (`Session.Worded`), and so has its canonical form (`Session.words_pretty_ne_nil`).

An evaluation leaves the duration of its entry open.  Whoever has measured it fills it in, and
nothing else of the session changes (`Session.timeLast_of_concat`); it can still be replayed
(`Session.Replayable.timeLast`).  In a session that can be replayed, the input of every entry with a
value can be read again, and its value is finite (`Session.Replayable.read_of_value`).
-/

namespace Reckoner

namespace Session

variable {session : Session} {history : List Entry} {entry : Entry}

/-- The history with the duration of its last entry. -/
theorem timeLast_of_concat (concat : session.history = history ++ [entry]) (nanoseconds : Nat) :
    session.timeLast nanoseconds =
      { session with history := history ++ [{ entry with nanoseconds := nanoseconds }] } := by
  have last : (history ++ [entry]).length - 1 = history.length := by
    rw [List.length_append, List.length_singleton, Nat.add_sub_cancel]
  have inside : history.length < (history ++ [entry]).length := by
    rw [List.length_append]
    exact Nat.lt_succ_self _
  rw [timeLast, concat, last, List.modify_eq_take_cons_drop inside, List.take_left,
    List.getElem_concat_length rfl, List.drop_of_length_le (by simp)]

theorem timeLast_of_empty (empty : session.history = []) (nanoseconds : Nat) :
    session.timeLast nanoseconds = session := by
  cases session
  subst empty
  rfl

/-- What can be replayed does not depend on durations. -/
theorem Replayable.timeLast {calculator : Calculator} (replayable : Replayable calculator session)
    (nanoseconds : Nat) : Replayable calculator (session.timeLast nanoseconds) := by
  rcases List.eq_nil_or_concat session.history with empty | ⟨front, last, concat⟩
  · rw [timeLast_of_empty empty]
    exact replayable
  · rw [List.concat_eq_append] at concat
    have calculatorEq := replayable.calculator_eq
    have replays := replayable.replays
    rw [concat] at calculatorEq replays
    rw [timeLast_of_concat concat]
    refine ⟨replayable.base_eq, ?_, ?_⟩
    · rw [calculatorAfter, environmentAfter, List.filterMap_append] at calculatorEq ⊢
      exact calculatorEq
    · intro index entry member
      dsimp only at member ⊢
      by_cases old : index < front.length
      · rw [List.getElem?_append_left old] at member
        have same := replays index entry (by rwa [List.getElem?_append_left old])
        rwa [List.take_append_of_le_length (Nat.le_of_lt old)] at same ⊢
      · have final : index = front.length := by
          have inside := (List.getElem?_eq_some_iff.mp member).1
          rw [List.length_append, List.length_singleton] at inside
          omega
        rw [final, List.getElem?_concat_length, Option.some.injEq] at member
        have same := replays index last (by rw [final, List.getElem?_concat_length])
        rw [final, List.take_left] at same ⊢
        rw [← member]
        exact ⟨same.result, same.steps, same.finite, same.nonempty, same.trimmed⟩

/-! ## The inputs -/

/-- The input of every entry has words. -/
def Worded (session : Session) : Prop :=
  ∀ entry ∈ session.history, Text.words entry.input.toList ≠ []

theorem Worded.evaluate (worded : Worded session) {request : Request}
    (nonempty : request.expression ≠ []) (trimmed : Text.Trimmed request.expression) :
    Worded (session.evaluate request) := by
  unfold Worded
  rw [evaluate_history]
  refine List.forall_mem_append.mpr ⟨worded, List.forall_mem_singleton.mpr ?_⟩
  rw [added, String.toList_ofList]
  cases expression : request.expression with
  | nil => exact absurd expression nonempty
  | cons character rest =>
      rw [expression] at trimmed
      exact Text.words_ne_nil List.mem_cons_self (trimmed.head character rfl)

theorem Worded.submit (worded : Worded session) (line : String) :
    Worded (session.submit line).2 := by
  rcases session.submit_cases line with
    ⟨request, nonempty, trimmed, submitted⟩ | submitted | ⟨outcome, _, _, submitted⟩
  · rw [submitted]
    exact worded.evaluate nonempty trimmed
  · rw [submitted]
    exact nofun
  · rw [submitted]
    exact worded

theorem Worded.run (worded : Worded session) (calls : List Call) :
    Worded (session.run calls).2 := by
  induction calls generalizing session with
  | nil => exact worded
  | cons call calls induction =>
      cases call with
      | submit line => exact induction (worded.submit line)
      | preview line => exact induction worded
      | pretty text => exact induction worded
      | clear => exact @induction session.clear nofun

theorem Worded.timeLast (worded : Worded session) (nanoseconds : Nat) :
    Worded (session.timeLast nanoseconds) := by
  rcases List.eq_nil_or_concat session.history with empty | ⟨front, last, concat⟩
  · rw [timeLast_of_empty empty]
    exact worded
  · rw [List.concat_eq_append] at concat
    rw [timeLast_of_concat concat]
    unfold Worded at worded
    rw [concat] at worded
    obtain ⟨frontWorded, lastWorded⟩ := List.forall_mem_append.mp worded
    refine List.forall_mem_append.mpr ⟨frontWorded, List.forall_mem_singleton.mpr ?_⟩
    exact lastWorded last List.mem_cons_self

theorem pretty_of_read {text : String} {tree : Expr}
    (read : session.calculator.read text = .ok tree) : session.pretty text = tree.text := by
  rw [pretty, read]

/-- An entry with a value has an input that is still read, and the value is finite. -/
theorem Replayable.read_of_value {calculator : Calculator}
    (replayable : Replayable calculator session) (member : entry ∈ session.history) {value : Float}
    (result : entry.result = .ok value) :
    value.isFinite = true ∧ ∃ tree, session.calculator.read entry.input = .ok tree := by
  obtain ⟨index, found⟩ := List.mem_iff_getElem?.mp member
  have replays := replayable.replays index entry found
  refine ⟨replays.finite value result, ?_⟩
  have depth : session.calculator.depth =
      (calculatorAfter calculator (session.history.take index)).depth := by
    rw [replayable.calculator_eq]
    rfl
  have evaluated := replays.result.symm.trans result
  rw [Calculator.read_eq_of_depth depth]
  unfold Calculator.evaluateTraced at evaluated
  split at evaluated
  · cases evaluated
  · next tree read => exact ⟨tree, read⟩

/-- What is not blank is not blank in its canonical form. -/
theorem words_pretty_ne_nil (session : Session) {input : String}
    (nonempty : Text.words input.toList ≠ []) :
    Text.words (session.pretty input).toList ≠ [] := by
  unfold pretty
  split
  · next tree read =>
      obtain ⟨character, member, solid⟩ := tree.exists_solid (Calculator.isWord_of_read read)
      rw [Expr.text, String.toList_ofList]
      exact Text.words_ne_nil member solid
  · rw [String.toList_ofList, Text.words_unwords]
    exact nonempty

end Session

end Reckoner
