import Reckoner.Proofs.Calculator.Names
import Reckoner.Proofs.Expr.Insertion
import Reckoner.Proofs.Session.Entries
import Reckoner.Proofs.Session.Relevance

/-!
# The answer stands for its value

The answer of a session is a constant of its environment, so its name can be replaced by its value,
with all digits that this value has.  In the expression this is a literal in place of a name.  In
the text it is a number in place of a word; one with a minus sign is put in parentheses, where it is
read as a negation, and so it can exceed a limit that the name does not.
-/

namespace Reckoner

/-- The kinds of tokens that write a number where a name can stand, a negative one as a negation in
parentheses. -/
def TokenKind.written (value : Float) : List TokenKind :=
  Expr.encloseKinds (Number.isNegative value) (Expr.literal value).kinds

/-- The second text has the tokens of the first, but the number in place of the name. -/
def Token.WritesOut (name : String) (value : Float) (text other : String) : Prop :=
  ∃ tokens others, readAll text = .ok tokens ∧ readAll other = .ok others ∧
    significant others =
      TokenKind.exchange name (TokenKind.written value) (significant tokens)

theorem Grammar.primary_written (value : Float) :
    ∃ deeper, Primary (TokenKind.written value) (Expr.literal value).normal deeper := by
  rw [TokenKind.written, Expr.kinds, Expr.normal]
  cases Number.isNegative value with
  | true =>
      exact ⟨_, .group (.product (.signed (.minus (.power (.primary (.number (-value)))))))⟩
  | false => exact ⟨_, .number value⟩

example : TokenKind.written (-2) =
    [.leftParenthesis, .operator '-', .number 2, .rightParenthesis] := by
  decide

namespace Expr

variable {environment : Environment} {value : Float}

theorem outcome_literal_of_finite (finite : value.isFinite = true) :
    (Expr.literal value).outcome environment = (.ok value, []) := by
  rw [outcome_literal, finite_eq_ok_iff.mpr ⟨rfl, finite⟩]

/-- However a number is written, its value is the number. -/
theorem exists_outcome_normal_literal (finite : value.isFinite = true) :
    ∃ steps, (Expr.literal value).normal.outcome environment = (.ok value, steps) := by
  apply yields_iff.mp
  refine ⟨?_, finite⟩
  have all : ∀ number ∈ (Expr.literal value).literals, number.isFinite = true :=
    List.forall_mem_singleton.mpr finite
  rw [evaluate_normal environment all, evaluate_eq, outcome_literal_of_finite finite]

theorem names_normal_literal (value : Float) : (Expr.literal value).normal.names = [] := by
  rw [normal]
  split <;> rfl

/-- Where the name is gone, it makes no difference that it is bound. -/
theorem evaluateTraced_withConstant {name : String} {tree other : Expr}
    (lowered : Environment.key name = name) (apart : name ∉ tree.functions)
    (absent : name ∉ other.names) (value : Float) (trace : Trace) :
    (tree.substitute name other).evaluateTraced (environment.withConstant name value) trace =
      (tree.substitute name other).evaluateTraced environment trace := by
  apply evaluateTraced_of_agreesOn
  apply Environment.withConstant_agreesOn lowered
  intro member
  rcases mem_names_substitute tree member apart with inside | ⟨_, different⟩
  · exact absent inside
  · exact different rfl

end Expr

namespace Calculator

variable {calculator : Calculator} {text other name : String} {tree : Expr} {value : Float}

/-- A text in which a number takes the place of the name is read as the expression with the number
in place of the name, unless it is nested too deeply.  It is not if the number has no sign. -/
theorem read_of_writesOut (read : calculator.read text = .ok tree) (apart : name ∉ tree.functions)
    (writes : Token.WritesOut name value text other) :
    (Number.isNegative value = false →
        calculator.read other = .ok (tree.substitute name (.literal value))) ∧
      (calculator.read other = .ok (tree.substitute name (Expr.literal value).normal) ∨
        ∃ limit, calculator.read other = .error (.parse (.tooDeep limit))) := by
  obtain ⟨tokens, others, readTokens, readOthers, exchanged⟩ := writes
  obtain ⟨known, readKnown, built⟩ := read_eq_ok_iff.mp read
  obtain rfl := Except.ok.inj (readTokens.symm.trans readKnown)
  constructor
  · intro unsigned
    have number : TokenKind.written value = [.number value] := by
      simp [TokenKind.written, Expr.encloseKinds, Expr.kinds, unsigned]
    rw [number] at exchanged
    exact read_eq_ok_iff.mpr ⟨others, readOthers,
      Expr.ofTokens_exchange_number built apart exchanged⟩
  · obtain ⟨deeper, primary⟩ := Grammar.primary_written value
    rcases Expr.ofTokens_exchange primary built apart exchanged with
      whole | ⟨limit, stopped⟩
    · exact .inl (read_eq_ok_iff.mpr ⟨others, readOthers, whole⟩)
    · refine .inr ⟨limit, ?_⟩
      rw [Calculator.read, readOthers]
      dsimp only
      rw [stopped]

/-- A text that writes the number in place of the name has the value of the text with the name. -/
theorem evaluate_of_writesOut {environment : Environment}
    (bound : calculator.environment = environment.withConstant name value)
    (lowered : Environment.key name = name) (finite : value.isFinite = true)
    (read : calculator.read text = .ok tree) (apart : name ∉ tree.functions)
    (readOther : calculator.read other =
      .ok (tree.substitute name (Expr.literal value).normal)) :
    calculator.evaluate other = calculator.evaluate text := by
  obtain ⟨steps, replaced⟩ := @Expr.exists_outcome_normal_literal environment value finite
  have absent : name ∉ (Expr.literal value).normal.names := by
    simp [Expr.names_normal_literal]
  have unbound := @Expr.evaluateTraced_withConstant environment name tree
    (Expr.literal value).normal lowered apart absent value (.start false)
  have same := (Expr.evaluateTraced_substitute lowered replaced apart).1
  rw [← bound] at unbound same
  rw [evaluate_of_read readOther, evaluate_of_read read, unbound]
  exact congrArg (Except.mapError CalcError.eval) same

end Calculator

namespace Session

/-- The value of the last entry that has one. -/
def lastValue? (history : List Entry) : Option Float :=
  (history.filterMap Entry.value?).getLast?

variable {calculator : Calculator} {session : Session} {value : Float}

theorem Replayable.environment_of_lastValue (replayable : Replayable calculator session)
    (last : lastValue? session.history = some value) :
    session.environment = calculator.environment.withConstant answerName value := by
  rw [lastValue?] at last
  rw [Session.environment, replayable.calculator_eq, calculatorAfter, environmentAfter, last]

theorem Replayable.isFinite_of_lastValue (replayable : Replayable calculator session)
    (last : lastValue? session.history = some value) : value.isFinite = true := by
  obtain ⟨entry, member, entryValue⟩ :=
    List.mem_filterMap.mp (List.mem_of_getLast? last)
  have result : entry.result = .ok value := by
    unfold Entry.value? at entryValue
    split at entryValue
    · next found =>
        rw [found]
        exact congrArg Except.ok (Option.some.inj entryValue)
    · cases entryValue
  exact (replayable.read_of_value member result).1

theorem isName_answerName : Token.IsName answerName :=
  ⟨_, rfl, rfl⟩

/-- A constant can be replaced by its value: the value of the whole is the same, or the error, and
so are the steps, without the look-ups of the name.

So it is with the answer of a session and the last value found in it.  A text with this value in
place of the answer has the same value as the text with the answer, unless it is nested too deeply.
Without a minus sign it is not, and then it is read as the expression with the number in place of
the name. -/
theorem evaluateTraced_of_answer :
    (∀ (environment : Environment) (name : String) (value : Float) (tree : Expr),
      Environment.key name = name → name ∉ tree.functions → value.isFinite = true →
        let bound := environment.withConstant name value
        (tree.substitute name (.literal value)).evaluate environment = tree.evaluate bound ∧
          ∃ carried steps kept, carried <+: tree.operations ∧
            List.Forall₂ (Expr.Carries bound) carried steps ∧
            Expr.Exchanged name value [] carried steps kept ∧
            ∀ trace,
              tree.evaluateTraced bound trace = (tree.evaluate bound, trace.recordAll steps) ∧
                (tree.substitute name (.literal value)).evaluateTraced environment trace =
                  (tree.evaluate bound, trace.recordAll kept)) ∧
    ∀ (calculator : Calculator) (calls : List Call),
      let session := ((start calculator).run calls).2
      ∀ (value : Float) (text : String) (tree : Expr),
        lastValue? session.history = some value → session.calculator.read text = .ok tree →
        answerName ∉ tree.functions →
          (∃ steps, ∀ trace,
            tree.evaluateTraced session.environment trace =
                (tree.evaluate session.environment, trace.recordAll steps) ∧
              (tree.substitute answerName (.literal value)).evaluateTraced
                  session.environment trace =
                (tree.evaluate session.environment,
                  trace.recordAll (steps.filter (·.operation != answerName)))) ∧
          ∀ other, Token.WritesOut answerName value text other →
            (Number.isNegative value = false →
                session.calculator.read other =
                  .ok (tree.substitute answerName (.literal value))) ∧
              (session.calculator.evaluate other = session.calculator.evaluate text ∨
                ∃ limit, session.calculator.read other = .error (.parse (.tooDeep limit))) := by
  constructor
  · intro environment name value tree lowered apart finite
    exact Expr.evaluateTraced_substitute lowered (Expr.outcome_literal_of_finite finite) apart
  · intro calculator calls session value text tree last read apart
    have replayable : Replayable calculator session := (start_replayable calculator).run calls
    have finite := replayable.isFinite_of_lastValue last
    have environment := replayable.environment_of_lastValue last
    constructor
    · obtain ⟨_, carried, steps, kept, _, carries, exchanged, runs⟩ :=
        @Expr.evaluateTraced_substitute calculator.environment _ _ _ _ key_answerName
          (Expr.outcome_literal_of_finite finite) tree apart
      refine ⟨steps, fun trace => ?_⟩
      rw [environment, Expr.evaluateTraced_withConstant key_answerName apart (by simp [Expr.names]),
        ← exchanged.eq_filter isName_answerName carries]
      exact runs trace
    · intro other writes
      obtain ⟨unsigned, reads⟩ := Calculator.read_of_writesOut read apart writes
      refine ⟨unsigned, reads.imp_left ?_⟩
      exact Calculator.evaluate_of_writesOut environment key_answerName finite read apart

/-- A name for three in a sum; and the opposite of the answer in a session that has found the
constant `pi`. -/
theorem evaluateTraced_of_answer_pi :
    let environment := Builtin.environment
    let tree : Expr := .binary .add (.constant "x") (.constant "pi")
    let session := ((start Calculator.standard).run [.submit "pi"]).2
    let opposite : Expr := .negate (.constant answerName)
    let written := (Expr.negate (.literal Builtin.pi)).text
    Environment.key "x" = "x" ∧ "x" ∉ tree.functions ∧ (3 : Float).isFinite = true ∧
      (tree.substitute "x" (.literal 3)).evaluate environment =
        tree.evaluate (environment.withConstant "x" 3) ∧
      lastValue? session.history = some Builtin.pi ∧
      session.calculator.read "-ans" = .ok opposite ∧ answerName ∉ opposite.functions ∧
      Token.WritesOut answerName Builtin.pi "-ans" written ∧
      session.calculator.read written = .ok (.negate (.literal Builtin.pi)) := by
  intro environment tree session opposite written
  have finite : (3 : Float).isFinite = true := by decide
  have unsigned : Number.isNegative Builtin.pi = false := by decide
  have last : lastValue? session.history = some Builtin.pi := rfl
  have depth : session.calculator.depth = Calculator.standard.depth := by
    rw [((start_replayable Calculator.standard).run [.submit "pi"]).calculator_eq]
    rfl
  have readTokens : Token.readAll "-ans" =
      .ok [⟨.operator '-', 0⟩, ⟨.identifier answerName, 1⟩, ⟨.finish, 2⟩] := rfl
  have read : session.calculator.read "-ans" = .ok opposite := by
    rw [Calculator.read_eq_of_depth depth]
    exact Calculator.read_eq_ok_iff.mpr ⟨_, readTokens, rfl⟩
  have allFinite : ∀ number ∈ (Expr.negate (.literal Builtin.pi)).literals,
      number.isFinite = true := by
    intro number member
    rw [List.mem_singleton.mp member]
    decide
  have writes : Token.WritesOut answerName Builtin.pi "-ans" written := by
    obtain ⟨tokens, readWritten, _, significantEq⟩ := Expr.readAll_text allFinite nofun
    refine ⟨_, tokens, readTokens, readWritten, ?_⟩
    rw [significantEq]
    rfl
  have named := evaluateTraced_of_answer.1 environment "x" 3 tree (by decide) (by decide) finite
  have answered := evaluateTraced_of_answer.2 Calculator.standard [.submit "pi"] Builtin.pi "-ans"
    opposite last read (by decide)
  exact ⟨by decide, by decide, finite, named.1, last, read, by decide, writes,
    (answered.2 written writes).1 unsigned⟩

end Session

end Reckoner
