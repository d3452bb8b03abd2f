import Reckoner.Expr.Evaluation

/-!
# Values and steps of expressions

Every value that an evaluation hands on is finite.

A trace has no influence on an evaluation, and an evaluation only adds to it: from every trace an
expression has the same outcome and adds the same steps.  `Expr.outcome` is that outcome with the
steps that are added, and for each form of expression it satisfies an equation without traces.
-/

namespace Reckoner

namespace Trace

variable {trace : Trace}

/-- The trace with all these steps added, if steps are kept. -/
def recordAll (trace : Trace) (steps : List Step) : Trace :=
  if trace.detailed then { trace with steps := trace.steps ++ steps } else trace

@[simp] theorem recordAll_nil : trace.recordAll [] = trace := by
  simp [recordAll]

@[simp] theorem recordAll_recordAll (steps later : List Step) :
    (trace.recordAll steps).recordAll later = trace.recordAll (steps ++ later) := by
  cases kept : trace.detailed <;> simp [recordAll, kept]

theorem recordAll_of_quiet (quiet : trace.detailed = false) (steps : List Step) :
    trace.recordAll steps = trace := by
  simp [recordAll, quiet]

theorem record_eq (operation : List Char) (result : Float) :
    trace.record operation result = trace.recordAll [⟨String.ofList operation, result⟩] :=
  rfl

end Trace

namespace Expr

theorem finite_eq_ok_iff {value result : Float} :
    finite value = .ok result ↔ value = result ∧ result.isFinite = true := by
  unfold finite
  split
  · next isFinite =>
      constructor
      · intro same
        cases same
        exact ⟨rfl, isFinite⟩
      · rintro ⟨rfl, _⟩
        rfl
  · next infinite =>
      constructor
      · intro same
        cases same
      · rintro ⟨rfl, isFinite⟩
        exact absurd isFinite infinite

/-- The last thing that an evaluation does to its value is to see that it is finite. -/
theorem isFinite_of_evaluateTraced {environment : Environment} {trace : Trace} {tree : Expr}
    {value : Float} (success : (evaluateTraced environment trace tree).1 = .ok value) :
    value.isFinite = true := by
  cases tree <;> unfold evaluateTraced at success
  case literal number => exact (finite_eq_ok_iff.mp success).2
  case constant name =>
    split at success
    · exact (finite_eq_ok_iff.mp success).2
    · cases success
    · cases success
  case negate operand =>
    split at success
    · cases success
    · exact (finite_eq_ok_iff.mp success).2
  case binary operator left right =>
    split at success
    · cases success
    · split at success
      · cases success
      · split at success
        · cases success
        · exact (finite_eq_ok_iff.mp success).2
  case call function arguments =>
    split at success
    · cases success
    · split at success
      · cases success
      · split at success
        · cases success
        · exact (finite_eq_ok_iff.mp success).2

section Trace

variable {α : Type} (environment : Environment)

/-- From every trace the run has the same outcome and adds the same steps. -/
def Uniform (run : Trace → Except EvalError α × Trace) : Prop :=
  ∃ outcome steps, ∀ trace, run trace = (outcome, trace.recordAll steps)

mutual

theorem evaluateTraced_uniform (tree : Expr) :
    Uniform (evaluateTraced environment · tree) := by
  match tree with
  | .literal value => exact ⟨finite value, [], fun trace => by simp [evaluateTraced]⟩
  | .constant name =>
      unfold evaluateTraced
      split
      · exact ⟨_, [_], fun trace => rfl⟩
      · exact ⟨_, [], fun trace => by rw [Trace.recordAll_nil]⟩
      · exact ⟨_, [], fun trace => by rw [Trace.recordAll_nil]⟩
  | .negate operand =>
      obtain ⟨outcome, steps, run⟩ := evaluateTraced_uniform operand
      simp only [Uniform, evaluateTraced, run]
      cases outcome with
      | error error => exact ⟨_, steps, fun trace => rfl⟩
      | ok value =>
          simp only [Trace.record_eq, Trace.recordAll_recordAll]
          exact ⟨_, _, fun trace => rfl⟩
  | .binary operator left right =>
      obtain ⟨leftOutcome, leftSteps, leftRun⟩ := evaluateTraced_uniform left
      obtain ⟨rightOutcome, rightSteps, rightRun⟩ := evaluateTraced_uniform right
      simp only [Uniform, evaluateTraced, leftRun]
      cases leftOutcome with
      | error error => exact ⟨_, leftSteps, fun trace => rfl⟩
      | ok leftValue =>
          simp only [rightRun, Trace.recordAll_recordAll]
          cases rightOutcome with
          | error error => exact ⟨_, _, fun trace => rfl⟩
          | ok rightValue =>
              dsimp only
              split
              · exact ⟨_, _, fun trace => rfl⟩
              · simp only [Trace.record_eq, Trace.recordAll_recordAll]
                exact ⟨_, _, fun trace => rfl⟩
  | .call function arguments =>
      obtain ⟨outcome, steps, run⟩ := evaluateAll_uniform arguments
      unfold evaluateTraced
      split
      · exact ⟨_, [], fun trace => by rw [Trace.recordAll_nil]⟩
      · simp only [Uniform, run]
        cases outcome with
        | error error => exact ⟨_, steps, fun trace => rfl⟩
        | ok values =>
            dsimp only
            split
            · exact ⟨_, steps, fun trace => rfl⟩
            · simp only [Trace.record_eq, Trace.recordAll_recordAll]
              exact ⟨_, _, fun trace => rfl⟩

theorem evaluateAll_uniform (arguments : List Expr) :
    Uniform (evaluateAll environment · arguments) := by
  match arguments with
  | [] => exact ⟨.ok [], [], fun trace => by simp [evaluateAll]⟩
  | argument :: rest =>
      obtain ⟨outcome, steps, run⟩ := evaluateTraced_uniform argument
      obtain ⟨restOutcome, restSteps, restRun⟩ := evaluateAll_uniform rest
      simp only [Uniform, evaluateAll, run]
      cases outcome with
      | error error => exact ⟨_, steps, fun trace => rfl⟩
      | ok value =>
          simp only [restRun, Trace.recordAll_recordAll]
          cases restOutcome with
          | error error => exact ⟨_, _, fun trace => rfl⟩
          | ok values => exact ⟨_, _, fun trace => rfl⟩

end

/-- The outcome of an evaluation with all its steps. -/
def outcome (tree : Expr) : Except EvalError Float × List Step :=
  ((evaluateTraced environment (.start true) tree).1,
    (evaluateTraced environment (.start true) tree).2.steps)

def outcomeAll (trees : List Expr) : Except EvalError (List Float) × List Step :=
  ((evaluateAll environment (.start true) trees).1,
    (evaluateAll environment (.start true) trees).2.steps)

theorem Uniform.run_eq {run : Trace → Except EvalError α × Trace} (uniform : Uniform run)
    (trace : Trace) :
    run trace = ((run (.start true)).1, trace.recordAll (run (.start true)).2.steps) := by
  obtain ⟨outcome, steps, same⟩ := uniform
  rw [same trace, same (.start true)]
  rfl

/-- An evaluation does not depend on its trace, and only adds steps to it. -/
theorem evaluateTraced_eq (trace : Trace) (tree : Expr) :
    evaluateTraced environment trace tree =
      ((tree.outcome environment).1, trace.recordAll (tree.outcome environment).2) :=
  (evaluateTraced_uniform environment tree).run_eq trace

theorem evaluateAll_eq (trace : Trace) (trees : List Expr) :
    evaluateAll environment trace trees =
      ((outcomeAll environment trees).1, trace.recordAll (outcomeAll environment trees).2) :=
  (evaluateAll_uniform environment trees).run_eq trace

theorem evaluate_eq (tree : Expr) : tree.evaluate environment = (tree.outcome environment).1 := by
  rw [evaluate, evaluateTraced_eq]

theorem outcome_literal (value : Float) :
    outcome environment (.literal value) = (finite value, []) := by
  rw [outcome, evaluateTraced]
  rfl

theorem outcome_constant (name : String) :
    outcome environment (.constant name) =
      match environment.find? name with
      | some (.constant value) => (finite value, [⟨name, value⟩])
      | some (.function _) => (.error (.notAConstant name), [])
      | none => (.error (.unknownIdentifier name), []) := by
  rw [outcome, evaluateTraced]
  cases environment.find? name with
  | none => rfl
  | some binding =>
      cases binding with
      | constant value => simp [Trace.record, Trace.start]
      | function overloads => rfl

theorem outcome_negate (operand : Expr) :
    outcome environment (.negate operand) =
      match operand.outcome environment with
      | (.error error, steps) => (.error error, steps)
      | (.ok value, steps) =>
        (finite (-value), steps ++ [⟨String.ofList ('-' :: Number.characters value), -value⟩]) := by
  rw [outcome, evaluateTraced, evaluateTraced_eq environment _ operand]
  rcases operand.outcome environment with ⟨_ | _, steps⟩ <;> rfl

theorem outcome_binary (operator : Operator) (left right : Expr) :
    outcome environment (.binary operator left right) =
      match left.outcome environment with
      | (.error error, steps) => (.error error, steps)
      | (.ok leftValue, steps) =>
        match right.outcome environment with
        | (.error error, later) => (.error error, steps ++ later)
        | (.ok rightValue, later) =>
          match operator.apply leftValue rightValue with
          | .error error => (.error error, steps ++ later)
          | .ok result =>
            (finite result, steps ++ later ++
              [⟨String.ofList (operator.stepCharacters leftValue rightValue), result⟩]) := by
  rw [outcome, evaluateTraced, evaluateTraced_eq environment _ left]
  rcases left.outcome environment with ⟨_ | leftValue, steps⟩
  · rfl
  · simp only [evaluateTraced_eq environment _ right, Trace.recordAll_recordAll]
    rcases right.outcome environment with ⟨_ | rightValue, later⟩
    · rfl
    · dsimp only
      cases operator.apply leftValue rightValue <;> rfl

theorem outcome_call (function : String) (arguments : List Expr) :
    outcome environment (.call function arguments) =
      match overload environment function arguments.length with
      | .error error => (.error error, [])
      | .ok overload =>
        match outcomeAll environment arguments with
        | (.error error, steps) => (.error error, steps)
        | (.ok values, steps) =>
          match overload.apply values with
          | .error refusal => (.error (.domain function refusal), steps)
          | .ok result =>
            (finite result,
              steps ++ [⟨String.ofList (callCharacters function values), result⟩]) := by
  rw [outcome, evaluateTraced, evaluateAll_eq environment _ arguments]
  cases overload environment function arguments.length with
  | error error => rfl
  | ok overload =>
      rcases outcomeAll environment arguments with ⟨_ | values, steps⟩
      · rfl
      · dsimp only
        cases overload.apply values <;> rfl

theorem outcomeAll_cons (tree : Expr) (rest : List Expr) :
    outcomeAll environment (tree :: rest) =
      match tree.outcome environment with
      | (.error error, steps) => (.error error, steps)
      | (.ok value, steps) =>
        match outcomeAll environment rest with
        | (.error error, later) => (.error error, steps ++ later)
        | (.ok values, later) => (.ok (value :: values), steps ++ later) := by
  rw [outcomeAll, evaluateAll, evaluateTraced_eq environment _ tree]
  rcases tree.outcome environment with ⟨_ | value, steps⟩
  · rfl
  · simp only [evaluateAll_eq environment _ rest, Trace.recordAll_recordAll]
    rcases outcomeAll environment rest with ⟨_ | values, later⟩ <;> rfl

end Trace

end Expr

end Reckoner
