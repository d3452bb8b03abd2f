import Reckoner.Proofs.Session.Replay
import Reckoner.Proofs.Text.Lowering

/-!
# Previews

The preview of a line is the result that the line would have.  It exists where submitting the line
evaluates something, and then the entry that is added has this result.

Two things divide the preview from the submission.  A submitted line is compared with the command
words in lower case, a previewed one without regard to ASCII case.  This is the same, because no
character outside ASCII is lowered to a letter of a command word: the Kelvin sign is lowered to
`k`, which none of them has.  And the submission keeps the steps of the evaluation, if they are
asked for, which have no influence on its result.
-/

namespace Reckoner

namespace Command

theorem words_plain : ∀ entry ∈ words, ∀ character ∈ entry.1.toList, Text.IsPlain character := by
  have all : ∀ entry ∈ words, entry.1.toList.all (Text.IsPlain ·) = true := by decide
  intro entry member character inside
  exact of_decide_eq_true (List.all_eq_true.mp (all entry member) character inside)

theorem ofLine?_eq_none_iff {line : List Char} :
    ofLine? line = none ↔ ∀ entry ∈ words, Text.lowerText line ≠ entry.1.toList := by
  rw [ofLine?, List.lookup_eq_none_iff]
  apply forall₂_congr
  intro entry member
  rw [bne_iff_ne, ne_eq, ne_eq, ← String.toList_inj, String.toList_ofList]

theorem isWord_eq_false_iff {line : List Char} :
    isWord line = false ↔ ∀ entry ∈ words, line.map Char.toLower ≠ entry.1.toList := by
  have small : ∀ entry ∈ words, entry.1.toList.map Char.toLower = entry.1.toList := by decide
  rw [isWord, List.any_eq_false]
  apply forall₂_congr
  intro entry member
  rw [Text.equalIgnoringAsciiCase, small entry member, beq_iff_eq]

/-- Both comparisons take the same lines for commands. -/
theorem ofLine?_eq_none_iff_isWord {line : List Char} :
    ofLine? line = none ↔ isWord line = false := by
  rw [ofLine?_eq_none_iff, isWord_eq_false_iff]
  apply forall₂_congr
  intro entry member
  exact not_congr (Text.lowerText_eq_iff (words_plain entry member))

end Command

/-- Keeping the steps of an evaluation does not change its result. -/
theorem Calculator.evaluateTraced_fst (calculator : Calculator) (trace : Trace) (text : String) :
    (calculator.evaluateTraced trace text).1 = calculator.evaluate text := by
  unfold evaluate evaluateTraced
  cases calculator.read text with
  | error error => rfl
  | ok tree =>
      dsimp only
      rw [Expr.evaluateTraced_eq, Expr.evaluateTraced_eq]
      cases (tree.outcome calculator.environment).1 <;> rfl

namespace Session

variable {session : Session} {line : String}

theorem added_result (request : Request) :
    (session.added request).result =
      session.calculator.evaluate (String.ofList request.expression) :=
  Calculator.evaluateTraced_fst _ _ _

/-- A line that is neither blank nor a command is evaluated. -/
theorem submit_eq_evaluate (nonempty : (Text.trim line.toList).isEmpty = false)
    (noCommand : Command.ofLine? (Text.trim line.toList) = none) :
    session.submit line =
      (.evaluated, session.evaluate (Request.ofLine (Text.trim line.toList))) := by
  unfold submit
  dsimp only
  rw [if_neg (Bool.eq_false_iff.mp nonempty), noCommand]

theorem submit_evaluated_iff :
    (session.submit line).1 = .evaluated ↔
      (Text.trim line.toList).isEmpty = false ∧
        Command.ofLine? (Text.trim line.toList) = none := by
  constructor
  · intro evaluated
    unfold submit at evaluated
    dsimp only at evaluated
    split at evaluated
    · cases evaluated
    · next nonempty =>
        refine ⟨Bool.eq_false_iff.mpr nonempty, ?_⟩
        split at evaluated
        · cases evaluated
        · cases evaluated
        · cases evaluated
        · next noCommand => exact noCommand
  · rintro ⟨nonempty, noCommand⟩
    rw [submit_eq_evaluate nonempty noCommand]

theorem preview_eq_none_iff :
    session.preview line = none ↔ (session.submit line).1 ≠ .evaluated := by
  rw [ne_eq, submit_evaluated_iff, Command.ofLine?_eq_none_iff_isWord, preview]
  split
  · next hidden => simpa [Bool.or_eq_true, Classical.or_iff_not_imp_left] using hidden
  · next shown => simpa using shown

theorem preview_of_evaluated (evaluated : (session.submit line).1 = .evaluated) :
    ∃ entry, (session.submit line).2.history = session.history ++ [entry] ∧
      session.preview line = some entry.result := by
  obtain ⟨nonempty, noCommand⟩ := submit_evaluated_iff.mp evaluated
  have noWord := Command.ofLine?_eq_none_iff_isWord.mp noCommand
  rw [submit_eq_evaluate nonempty noCommand]
  refine ⟨session.added (Request.ofLine (Text.trim line.toList)), ?_, ?_⟩
  · dsimp only
    rw [evaluate_history]
  · rw [preview, added_result]
    rw [nonempty, noWord, Bool.or_self, if_neg Bool.false_ne_true]

/-- A line has no preview exactly where submitting it does not evaluate it.  Otherwise submitting it
adds one entry, with the result of the preview.  No later call takes notice of the preview. -/
theorem preview_submit (session : Session) (line : String) :
    (session.preview line = none ↔ (session.submit line).1 ≠ .evaluated) ∧
      (∀ result, session.preview line = some result →
        ∃ entry, (session.submit line).2.history = session.history ++ [entry] ∧
          entry.result = result) ∧
      (session.answer (.preview line)).2 = session ∧
      ∀ calls, session.run (.preview line :: calls) =
        (.previewed (session.preview line) :: (session.run calls).1, (session.run calls).2) := by
  refine ⟨preview_eq_none_iff, ?_, rfl, fun calls => rfl⟩
  intro result shown
  have evaluated : (session.submit line).1 = .evaluated := by
    by_contra other
    rw [preview_eq_none_iff.mpr other] at shown
    contradiction
  obtain ⟨entry, history, same⟩ := preview_of_evaluated evaluated
  refine ⟨entry, history, ?_⟩
  rw [shown] at same
  exact (Option.some.inj same).symm

end Session

end Reckoner
