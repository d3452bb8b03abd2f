import Reckoner.Proofs.Calculator
import Reckoner.Proofs.Environment
import Reckoner.Proofs.Expr.Steps
import Reckoner.Proofs.Session.Replay

/-!
# Only the names in an expression matter

An evaluation looks up the names that stand in its expression, and no others.  So two environments
that bind these names to the same give the same value or error and the same steps, whatever else
they bind (`Expr.evaluateTraced_of_agreesOn`).

The names in an expression that was read are among the tokens of its text.  What happens in a
session changes the binding of one name only, that of the answer; so a text in which this name does
not stand has the same value and the same steps in every state of the session.
-/

namespace Reckoner

/-- The environments bind each of the names to the same, or leave it unbound. -/
def Environment.AgreesOn (environment : Environment) (names : List String) (other : Environment) :
    Prop :=
  ∀ name ∈ names, environment.find? name = other.find? name

/-- A constant makes no difference to the names other than its own. -/
theorem Environment.withConstant_agreesOn {environment : Environment} {name : String}
    {names : List String} (lowered : key name = name) (absent : name ∉ names) (value : Float) :
    (environment.withConstant name value).AgreesOn names environment := by
  intro found member
  rw [find?_withConstant, lowered]
  refine if_neg ?_
  rintro rfl
  exact absent member

/-- The name is one of the tokens of the text. -/
def Token.Mentions (text name : String) : Prop :=
  ∃ tokens, readAll text = .ok tokens ∧ ∃ token ∈ tokens, token.kind = .identifier name

namespace Expr

variable {environment other : Environment} {tree : Expr}

theorem outcome_of_agreesOn (agree : environment.AgreesOn tree.names other) :
    tree.outcome environment = tree.outcome other := by
  refine (outcome_congr tree fun name member => ?_).symm
  rw [agree name member]
  cases other.find? name with
  | none => exact .none
  | some binding => exact .some (.refl binding)

theorem evaluateTraced_of_agreesOn (agree : environment.AgreesOn tree.names other)
    (trace : Trace) : tree.evaluateTraced environment trace = tree.evaluateTraced other trace := by
  rw [evaluateTraced_eq, evaluateTraced_eq, outcome_of_agreesOn agree]

end Expr

namespace Calculator

variable {calculator other : Calculator} {text name : String} {tree : Expr}

/-- The names in an expression stand in the text from which it was read. -/
theorem mentions_of_read (read : calculator.read text = .ok tree) (member : name ∈ tree.names) :
    Token.Mentions text name := by
  obtain ⟨tokens, readTokens, built⟩ := read_eq_ok_iff.mp read
  obtain ⟨front, place, rfl, scans, _⟩ := Token.scans_of_readAll readTokens
  obtain ⟨levels, sum, _⟩ := Expr.sum_of_ofTokens built
  rw [Token.significant_closed place scans.kind_ne_finish] at sum
  obtain ⟨token, tokenMember, kind⟩ := List.mem_map.mp (sum.mem_names.mp member)
  exact ⟨_, readTokens, token, List.mem_append_left _ tokenMember, kind⟩

/-- Calculators that allow the same depth evaluate a text alike, if their environments agree on the
names in it. -/
theorem evaluateTraced_of_agreesOn (depth : calculator.depth = other.depth)
    (agree : ∀ name, Token.Mentions text name →
      calculator.environment.find? name = other.environment.find? name) (trace : Trace) :
    calculator.evaluateTraced trace text = other.evaluateTraced trace text := by
  have sameRead := read_eq_of_depth depth text
  unfold evaluateTraced
  rw [← sameRead]
  cases read : calculator.read text with
  | error error => rfl
  | ok tree =>
      have same := Expr.evaluateTraced_of_agreesOn
        (fun name member => agree name (mentions_of_read read member)) trace
      dsimp only
      rw [same]

end Calculator

namespace Session

variable {base : Environment} {history : List Entry} {name : String}

/-- The name of the answer is kept as it is written. -/
theorem key_answerName : Environment.key answerName = answerName := by
  decide

/-- A history binds the answer, and no other name. -/
theorem find?_environmentAfter (different : name ≠ answerName) :
    (environmentAfter base history).find? name = base.find? name := by
  unfold environmentAfter
  split
  · rw [Environment.find?_withConstant, key_answerName, if_neg (Ne.symm different)]
  · rfl

/-- Environments that agree on the names in an expression evaluate it alike, with the same steps.
So a text in which the answer is not named is evaluated alike in any two states of a session. -/
theorem evaluateTraced_of_names :
    (∀ (tree : Expr) (environment other : Environment), environment.AgreesOn tree.names other →
      ∀ trace, tree.evaluateTraced environment trace = tree.evaluateTraced other trace) ∧
    ∀ (calculator : Calculator) (calls otherCalls : List Call) (text : String),
      ¬ Token.Mentions text answerName → ∀ trace,
        ((start calculator).run calls).2.calculator.evaluateTraced trace text =
          ((start calculator).run otherCalls).2.calculator.evaluateTraced trace text := by
  constructor
  · intro tree environment other agree trace
    exact Expr.evaluateTraced_of_agreesOn agree trace
  · intro calculator calls otherCalls text unmentioned trace
    have replayable := (start_replayable calculator).run calls
    have otherReplayable := (start_replayable calculator).run otherCalls
    have depth : ∀ history otherHistory, (calculatorAfter calculator history).depth =
        (calculatorAfter calculator otherHistory).depth := fun _ _ => rfl
    rw [replayable.calculator_eq, otherReplayable.calculator_eq]
    apply Calculator.evaluateTraced_of_agreesOn (depth _ _)
    intro name mentioned
    have different : name ≠ answerName := by
      rintro rfl
      exact unmentioned mentioned
    exact (find?_environmentAfter different).trans (find?_environmentAfter different).symm

/-- A call, with an answer bound beside its names; and a text in a session before and after the
session has found an answer. -/
theorem evaluateTraced_of_names_pi :
    let tree : Expr := .call "sqrt" [.constant "pi"]
    let answered := Builtin.environment.withConstant answerName 2
    let before := ((start Calculator.standard).run []).2
    let after := ((start Calculator.standard).run [.submit "1 + 1"]).2
    answered.AgreesOn tree.names Builtin.environment ∧
      (∀ trace, tree.evaluateTraced answered trace =
        tree.evaluateTraced Builtin.environment trace) ∧
      ¬ Token.Mentions "-pi" answerName ∧
      ∀ trace, before.calculator.evaluateTraced trace "-pi" =
        after.calculator.evaluateTraced trace "-pi" := by
  intro tree answered before after
  have agree : answered.AgreesOn tree.names Builtin.environment :=
    Environment.withConstant_agreesOn key_answerName (by decide) 2
  have unmentioned : ¬ Token.Mentions "-pi" answerName := by
    rintro ⟨tokens, read, token, member, kind⟩
    have readTokens : Token.readAll "-pi" =
        .ok [⟨.operator '-', 0⟩, ⟨.identifier "pi", 1⟩, ⟨.finish, 2⟩] := rfl
    obtain rfl := Except.ok.inj (readTokens.symm.trans read)
    simp only [List.mem_cons, List.not_mem_nil, or_false] at member
    rcases member with rfl | rfl | rfl <;> exact absurd kind (by decide)
  exact ⟨agree, evaluateTraced_of_names.1 tree _ _ agree, unmentioned,
    evaluateTraced_of_names.2 Calculator.standard [] [.submit "1 + 1"] "-pi" unmentioned⟩

end Session

end Reckoner
