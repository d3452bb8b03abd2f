import Reckoner.Proofs.Expr.Evaluation
import Reckoner.Proofs.Session.Requests
import Reckoner.Session

/-!
# Histories can be replayed

The history of a session determines its environment: the one with which the session began, with
the last value of the history as the answer.  Each entry was evaluated in the environment that the
entries before it determine, so evaluating its input once more gives the same result and the same
steps.

`Replayable` is the invariant.  It holds at the start, every call keeps it, and so it holds after
every run.  Durations are left out: nothing that is computed depends on them.
-/

namespace Reckoner

def Entry.value? (entry : Entry) : Option Float :=
  match entry.result with
  | .ok value => some value
  | .error _ => none

namespace Session

/-- The environment that a history determines. -/
def environmentAfter (base : Environment) (history : List Entry) : Environment :=
  match (history.filterMap Entry.value?).getLast? with
  | some value => base.withConstant answerName value
  | none => base

/-- The calculator that a history determines; only the environment depends on the history. -/
def calculatorAfter (calculator : Calculator) (history : List Entry) : Calculator :=
  { calculator with environment := environmentAfter calculator.environment history }

inductive Call where
  | submit (line : String)
  | preview (line : String)
  | pretty (text : String)
  | clear

inductive Answer where
  | submitted (outcome : Outcome)
  | previewed (result : Option (Except CalcError Float))
  | written (text : String)
  | cleared

def answer (session : Session) : Call → Answer × Session
  | .submit line => (.submitted (session.submit line).1, (session.submit line).2)
  | .preview line => (.previewed (session.preview line), session)
  | .pretty text => (.written (session.pretty text), session)
  | .clear => (.cleared, session.clear)

def run (session : Session) : List Call → List Answer × Session
  | [] => ([], session)
  | call :: calls =>
    let (first, next) := session.answer call
    let (rest, final) := next.run calls
    (first :: rest, final)

end Session

open Session

/-- Evaluating the input of the entry gives the entry's result and steps; a value is finite, and
the input is a trimmed text that is not empty. -/
structure Entry.Replays (calculator : Calculator) (entry : Entry) : Prop where
  result : entry.result = (calculator.evaluateTraced (.start entry.detailed) entry.input).1
  steps : entry.steps = (calculator.evaluateTraced (.start entry.detailed) entry.input).2.steps
  finite : ∀ value, entry.result = .ok value → value.isFinite = true
  nonempty : entry.input ≠ ""
  trimmed : Text.Trimmed entry.input.toList

theorem Calculator.isFinite_of_evaluateTraced {calculator : Calculator} {trace : Trace}
    {text : String} {value : Float}
    (success : (calculator.evaluateTraced trace text).1 = .ok value) : value.isFinite = true := by
  unfold evaluateTraced at success
  split at success
  · cases success
  · split at success
    · cases success
    · next evaluated =>
        cases success
        exact Expr.isFinite_of_evaluateTraced (congrArg Prod.fst evaluated)

namespace Session

variable {calculator : Calculator} {session : Session} {history : List Entry} {entry : Entry}

/-- An entry with a value rebinds the answer, on top of the environment of the start. -/
theorem environmentAfter_append_value {base : Environment} {value : Float}
    (result : entry.result = .ok value) :
    environmentAfter base (history ++ [entry]) = base.withConstant answerName value := by
  have entryValue : entry.value? = some value := by rw [Entry.value?, result]
  have last : ((history ++ [entry]).filterMap Entry.value?).getLast? = some value := by
    rw [List.filterMap_append, List.filterMap_cons, entryValue, List.filterMap_nil,
      List.getLast?_concat]
  rw [environmentAfter, last]

theorem environmentAfter_append_error {base : Environment} {error : CalcError}
    (result : entry.result = .error error) :
    environmentAfter base (history ++ [entry]) = environmentAfter base history := by
  have entryValue : entry.value? = none := by rw [Entry.value?, result]
  have values : (history ++ [entry]).filterMap Entry.value? = history.filterMap Entry.value? := by
    rw [List.filterMap_append, List.filterMap_cons, entryValue, List.filterMap_nil,
      List.append_nil]
  rw [environmentAfter, environmentAfter, values]

/-- The history determines the calculator, and each of its entries can be replayed. -/
structure Replayable (calculator : Calculator) (session : Session) : Prop where
  base_eq : session.base = calculator.environment
  calculator_eq : session.calculator = calculatorAfter calculator session.history
  replays : ∀ index (entry : Entry), session.history[index]? = some entry →
    entry.Replays (calculatorAfter calculator (session.history.take index))

theorem start_replayable (calculator : Calculator) : Replayable calculator (start calculator) := by
  refine ⟨rfl, rfl, ?_⟩
  intro index entry member
  rw [start, List.getElem?_nil] at member
  contradiction

theorem Replayable.clear_eq (replayable : Replayable calculator session) :
    session.clear = start calculator := by
  have depth : session.calculator.depth = calculator.depth := by
    rw [replayable.calculator_eq]
    rfl
  simp only [clear, start, replayable.base_eq, depth]

/-- The entry that an evaluation adds to the history. -/
def added (session : Session) (request : Request) : Entry where
  input := String.ofList request.expression
  result := (session.calculator.evaluateTraced (.start request.detailed)
    (String.ofList request.expression)).1
  steps := (session.calculator.evaluateTraced (.start request.detailed)
    (String.ofList request.expression)).2.steps
  detailed := request.detailed
  nanoseconds := 0

theorem evaluate_history {request : Request} :
    (session.evaluate request).history = session.history ++ [session.added request] :=
  rfl

theorem evaluate_of_value {request : Request} {value : Float}
    (result : (session.added request).result = .ok value) :
    session.evaluate request =
      { session.bindAnswer value with
        history := session.history ++ [session.added request] } := by
  simp only [added] at result
  simp only [evaluate, added, result]

theorem evaluate_of_error {request : Request} {error : CalcError}
    (result : (session.added request).result = .error error) :
    session.evaluate request =
      { session with history := session.history ++ [session.added request] } := by
  simp only [added] at result
  simp only [evaluate, added, result]

theorem added_replays {request : Request} (nonempty : request.expression ≠ [])
    (trimmed : Text.Trimmed request.expression) :
    (session.added request).Replays session.calculator := by
  refine ⟨rfl, rfl, ?_, ?_, ?_⟩
  · intro value success
    exact Calculator.isFinite_of_evaluateTraced success
  · intro empty
    have characters := congrArg String.toList empty
    rw [added, String.toList_ofList] at characters
    exact nonempty characters
  · rw [added, String.toList_ofList]
    exact trimmed

theorem Replayable.evaluate (replayable : Replayable calculator session) {request : Request}
    (nonempty : request.expression ≠ []) (trimmed : Text.Trimmed request.expression) :
    Replayable calculator (session.evaluate request) := by
  refine ⟨?_, ?_, ?_⟩
  · cases result : (session.added request).result with
    | ok value =>
        rw [evaluate_of_value result]
        exact replayable.base_eq
    | error error =>
        rw [evaluate_of_error result]
        exact replayable.base_eq
  · rw [evaluate_history, calculatorAfter]
    cases result : (session.added request).result with
    | ok value =>
        rw [evaluate_of_value result, environmentAfter_append_value result, bindAnswer,
          replayable.base_eq, replayable.calculator_eq]
        rfl
    | error error =>
        rw [evaluate_of_error result, environmentAfter_append_error result]
        exact replayable.calculator_eq
  · intro index entry member
    rw [evaluate_history] at member ⊢
    by_cases old : index < session.history.length
    · rw [List.getElem?_append_left old] at member
      rw [List.take_append_of_le_length (Nat.le_of_lt old)]
      exact replayable.replays index entry member
    · -- only the new entry is left, and it was evaluated by the session's calculator
      have last : index = session.history.length := by
        have inside := (List.getElem?_eq_some_iff.mp member).1
        rw [List.length_append, List.length_singleton] at inside
        omega
      rw [last, List.getElem?_concat_length, Option.some.injEq] at member
      rw [last, List.take_left, ← member, ← replayable.calculator_eq]
      exact added_replays nonempty trimmed

/-- A line does one of three things to a session: nothing, a clearing, or an evaluation of a
trimmed text. -/
theorem submit_cases (session : Session) (line : String) :
    (∃ request : Request, request.expression ≠ [] ∧ Text.Trimmed request.expression ∧
        session.submit line = (.evaluated, session.evaluate request)) ∨
      session.submit line = (.cleared, session.clear) ∨
      ∃ outcome, outcome ≠ .evaluated ∧ outcome ≠ .cleared ∧
        session.submit line = (outcome, session) := by
  unfold submit
  dsimp only
  split
  · exact .inr (.inr ⟨.ignored, nofun, nofun, rfl⟩)
  · next nonempty =>
      split
      · exact .inr (.inr ⟨.quit, nofun, nofun, rfl⟩)
      · exact .inr (.inl rfl)
      · exact .inr (.inr ⟨.help, nofun, nofun, rfl⟩)
      · have trimmed := Text.trimmed_trim line.toList
        have lineNonempty : Text.trim line.toList ≠ [] := fun empty => nonempty (by rw [empty]; rfl)
        exact .inl ⟨_, Request.ofLine_ne_nil trimmed lineNonempty,
          Request.ofLine_trimmed trimmed, rfl⟩

/-- What one call does to a session whose history determines it: it adds an entry, which leaves
the environment alone if it has no value; or it leads back to the start; or it does nothing. -/
theorem Replayable.answer_cases (replayable : Replayable calculator session) (call : Call) :
    (∃ request : Request, request.expression ≠ [] ∧ Text.Trimmed request.expression ∧
        session.answer call = (.submitted .evaluated, session.evaluate request)) ∨
      ((session.answer call).1 = .submitted .cleared ∨ (session.answer call).1 = .cleared) ∧
        (session.answer call).2 = start calculator ∨
      ((session.answer call).1 ≠ .submitted .evaluated ∧
        (session.answer call).1 ≠ .submitted .cleared ∧ (session.answer call).1 ≠ .cleared) ∧
        (session.answer call).2 = session := by
  cases call with
  | submit line =>
      dsimp only [Session.answer]
      rcases submit_cases session line with
        ⟨request, nonempty, trimmed, submitted⟩ | submitted | ⟨outcome, notNew, kept, submitted⟩
      · rw [submitted]
        exact .inl ⟨request, nonempty, trimmed, rfl⟩
      · rw [submitted]
        exact .inr (.inl ⟨.inl rfl, replayable.clear_eq⟩)
      · rw [submitted]
        refine .inr (.inr ⟨⟨?_, ?_, nofun⟩, rfl⟩)
        · simpa using notNew
        · simpa using kept
  | preview line => exact .inr (.inr ⟨⟨nofun, nofun, nofun⟩, rfl⟩)
  | pretty text => exact .inr (.inr ⟨⟨nofun, nofun, nofun⟩, rfl⟩)
  | clear => exact .inr (.inl ⟨.inr rfl, replayable.clear_eq⟩)

theorem Replayable.answer (replayable : Replayable calculator session) (call : Call) :
    Replayable calculator (session.answer call).2 := by
  rcases replayable.answer_cases call with
    ⟨request, nonempty, trimmed, answered⟩ | ⟨_, cleared⟩ | ⟨_, same⟩
  · rw [answered]
    exact replayable.evaluate nonempty trimmed
  · rw [cleared]
    exact start_replayable calculator
  · rw [same]
    exact replayable

theorem Replayable.run (replayable : Replayable calculator session) (calls : List Call) :
    Replayable calculator (session.run calls).2 := by
  induction calls generalizing session with
  | nil => exact replayable
  | cons call calls induction => exact induction (replayable.answer call)

/-- After every run of calls on a new session: the history determines the environment; every entry
can be replayed in the environment that the entries before it determine, with the depth of the
calculator; and a further call adds one entry, or empties the history and with it leads back to
the start, or changes nothing.  Where the added entry has no value the environment stays. -/
theorem run_start_replayable (calculator : Calculator) (calls : List Call) :
    let session := ((start calculator).run calls).2
    session.environment = environmentAfter calculator.environment session.history ∧
      (∀ index (entry : Entry), session.history[index]? = some entry →
        entry.Replays
          ⟨environmentAfter calculator.environment (session.history.take index),
            calculator.depth⟩) ∧
      ∀ call,
        ((session.answer call).1 = .submitted .evaluated ∧
          ∃ entry, (session.answer call).2.history = session.history ++ [entry] ∧
            ((∃ error, entry.result = .error error) →
              (session.answer call).2.environment = session.environment)) ∨
        (((session.answer call).1 = .submitted .cleared ∨ (session.answer call).1 = .cleared) ∧
          (session.answer call).2.history = [] ∧
          ∀ later, (session.answer call).2.run later = (start calculator).run later) ∨
        (((session.answer call).1 ≠ .submitted .evaluated ∧
            (session.answer call).1 ≠ .submitted .cleared ∧ (session.answer call).1 ≠ .cleared) ∧
          (session.answer call).2 = session) := by
  intro session
  have replayable : Replayable calculator session := (start_replayable calculator).run calls
  refine ⟨congrArg Calculator.environment replayable.calculator_eq, replayable.replays, ?_⟩
  intro call
  rcases replayable.answer_cases call with
    ⟨request, nonempty, trimmed, answered⟩ | ⟨cleared, next⟩ | unchanged
  · left
    rw [answered]
    refine ⟨rfl, session.added request, evaluate_history, ?_⟩
    rintro ⟨error, result⟩
    rw [evaluate_of_error result]
    rfl
  · refine .inr (.inl ⟨cleared, ?_, ?_⟩)
    · rw [next]
      rfl
    · intro later
      rw [next]
  · exact .inr (.inr unchanged)

end Session

end Reckoner
