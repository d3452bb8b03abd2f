import Reckoner.Proofs.Environment
import Reckoner.Proofs.Expr.Steps
import Reckoner.Proofs.Token.Pieces

/-!
# An expression in place of a name

Where a name is bound to a constant, an expression of the same value can stand in its place, such as
the literal of this value.  The whole keeps its value, or the reason why it has none.  Of its steps
those of the look-ups give way to the steps of the expression, and a literal has no steps.

A function is looked up under its name even where the name is bound to a constant, so the name that
is replaced must not be called.
-/

namespace Reckoner

namespace Expr

mutual

/-- The expression with another one in place of each constant of the name. -/
def substitute (tree : Expr) (name : String) (other : Expr) : Expr :=
  match tree with
  | .literal value => .literal value
  | .constant found => if found = name then other else .constant found
  | .negate operand => .negate (operand.substitute name other)
  | .binary operator left right =>
    .binary operator (left.substitute name other) (right.substitute name other)
  | .call function arguments => .call function (substituteAll arguments name other)

def substituteAll (trees : List Expr) (name : String) (other : Expr) : List Expr :=
  match trees with
  | [] => []
  | tree :: rest => tree.substitute name other :: substituteAll rest name other

end

mutual

/-- The names of the functions that are called. -/
def functions : Expr → List String
  | .literal _ => []
  | .constant _ => []
  | .negate operand => operand.functions
  | .binary _ left right => left.functions ++ right.functions
  | .call function arguments => function :: functionsAll arguments

def functionsAll : List Expr → List String
  | [] => []
  | argument :: rest => argument.functions ++ functionsAll rest

end

theorem length_substituteAll (trees : List Expr) (name : String) (other : Expr) :
    (substituteAll trees name other).length = trees.length := by
  induction trees with
  | nil => rfl
  | cons tree rest induction =>
      rw [substituteAll, List.length_cons, List.length_cons, induction]

section Steps

variable (name : String) (value : Float) (inside : List Step)

/-- The steps of some operations, once as they are and once with the steps `inside` in place of
every look-up of the name. -/
inductive Exchanged : (operations : List Expr) → (first second : List Step) → Prop where
  | nil : Exchanged [] [] []
  | lookUp {operations : List Expr} {first second : List Step} :
      Exchanged operations first second →
      Exchanged (.constant name :: operations) (⟨name, value⟩ :: first) (inside ++ second)
  | other {form : Expr} {operations : List Expr} {step : Step} {first second : List Step} :
      form ≠ .constant name → Exchanged operations first second →
      Exchanged (form :: operations) (step :: first) (step :: second)

/-- The outcomes are the same value or the same error, and their steps are exchanged: those of all
operations, or of the operations carried out before the error. -/
inductive Substituted {α : Type} (operations : List Expr) :
    (first second : Except EvalError α × List Step) → Prop where
  | value {result : α} {first second : List Step} :
      Exchanged name value inside operations first second →
      Substituted operations (.ok result, first) (.ok result, second)
  | error {error : EvalError} {carried : List Expr} {first second : List Step} :
      carried <+: operations → Exchanged name value inside carried first second →
      Substituted operations (.error error, first) (.error error, second)

end Steps

section Exchanged

variable {environment : Environment} {name : String} {value : Float}
  {inside first second : List Step} {operations : List Expr}

theorem Exchanged.length_eq (exchanged : Exchanged name value inside operations first second) :
    operations.length = first.length := by
  induction exchanged with
  | nil => rfl
  | lookUp _ induction => exact congrArg (· + 1) induction
  | other _ _ induction => exact congrArg (· + 1) induction

theorem Exchanged.append {later : List Expr} {firstLater secondLater : List Step}
    (exchanged : Exchanged name value inside operations first second)
    (exchangedLater : Exchanged name value inside later firstLater secondLater) :
    Exchanged name value inside (operations ++ later) (first ++ firstLater)
      (second ++ secondLater) := by
  induction exchanged with
  | nil => exact exchangedLater
  | lookUp _ induction =>
      rw [List.append_assoc]
      exact .lookUp induction
  | other different _ induction => exact .other different induction

/-- The last step of a form is the same in both, unless the form looks the name up. -/
theorem Exchanged.concat {form : Expr} (different : form ≠ .constant name)
    (exchanged : Exchanged name value inside operations first second) (operation : String)
    (result : Float) :
    Substituted name value inside (operations ++ [form])
      (finite result, first ++ [⟨operation, result⟩])
      (finite result, second ++ [⟨operation, result⟩]) := by
  have whole : Exchanged name value inside (operations ++ [form])
      (first ++ [⟨operation, result⟩]) (second ++ [⟨operation, result⟩]) :=
    exchanged.append (.other different .nil)
  unfold finite
  split
  · exact .value whole
  · exact .error List.prefix_rfl whole

variable {other : Expr}

/-- A name that is not replaced is bound to the same. -/
theorem overload_withConstant {function : String} (lowered : Environment.key name = name)
    (different : function ≠ name) (count : Nat) :
    overload (environment.withConstant name value) function count =
      overload environment function count := by
  have apart : Environment.key name ≠ function :=
    fun same => different (same.symm.trans lowered)
  rw [overload, overload, Environment.find?_withConstant, if_neg apart]

mutual

/-- Whether a constant is looked up, or an expression of its value evaluated in its place, makes a
difference only in the steps of the look-ups. -/
theorem outcome_substitute (lowered : Environment.key name = name)
    (replaced : other.outcome environment = (.ok value, inside)) (tree : Expr)
    (apart : name ∉ tree.functions) :
    Substituted name value inside tree.operations
      (tree.outcome (environment.withConstant name value))
      ((tree.substitute name other).outcome environment) := by
  match tree with
  | .literal number =>
      rw [substitute, outcome_literal, outcome_literal]
      unfold finite
      split
      · exact .value .nil
      · exact .error List.prefix_rfl .nil
  | .constant found =>
      rw [substitute, outcome_constant, Environment.find?_withConstant, lowered]
      by_cases same : found = name
      · -- a look-up on the one side, and the expression in its place on the other
        have isFinite : value.isFinite = true := (yields_iff.mpr ⟨_, replaced⟩).finite
        have lookUp : Exchanged name value inside [.constant name] [⟨name, value⟩] inside := by
          have exchanged : Exchanged name value inside _ _ _ := .lookUp .nil
          rwa [List.append_nil] at exchanged
        rw [if_pos same, if_pos same.symm, same, replaced]
        dsimp only
        rw [finite_eq_ok_iff.mpr ⟨rfl, isFinite⟩]
        exact .value lookUp
      · have different : Expr.constant found ≠ .constant name := by simpa using same
        rw [if_neg same, if_neg (Ne.symm same), outcome_constant]
        split
        · exact Exchanged.nil.concat different found _
        · exact .error List.nil_prefix .nil
        · exact .error List.nil_prefix .nil
  | .negate operand =>
      have same := outcome_substitute lowered replaced operand apart
      rw [substitute, outcome_negate, outcome_negate, operations]
      generalize operand.outcome (environment.withConstant name value) = run at same ⊢
      generalize (operand.substitute name other).outcome environment = otherRun at same ⊢
      cases same with
      | value exchanged => exact exchanged.concat (by simp) _ _
      | error carried exchanged =>
          exact .error (carried.trans (List.prefix_append _ _)) exchanged
  | .binary operator left right =>
      rw [functions, List.mem_append, not_or] at apart
      have leftSame := outcome_substitute lowered replaced left apart.1
      have rightSame := outcome_substitute lowered replaced right apart.2
      rw [substitute, outcome_binary, outcome_binary, operations]
      generalize left.outcome (environment.withConstant name value) = leftRun at leftSame ⊢
      generalize (left.substitute name other).outcome environment = otherLeft at leftSame ⊢
      generalize right.outcome (environment.withConstant name value) = rightRun at rightSame ⊢
      generalize (right.substitute name other).outcome environment = otherRight at rightSame ⊢
      cases leftSame with
      | error carried exchanged =>
          rw [List.append_assoc]
          exact .error (carried.trans (List.prefix_append _ _)) exchanged
      | value leftExchanged =>
          cases rightSame with
          | error carried exchanged =>
              rw [List.append_assoc]
              refine .error ?_ (leftExchanged.append exchanged)
              exact (List.prefix_append_right_inj _).mpr
                (carried.trans (List.prefix_append _ _))
          | value rightExchanged =>
              have exchanged := leftExchanged.append rightExchanged
              dsimp only
              split
              · exact .error (List.prefix_append _ _) exchanged
              · exact exchanged.concat (by simp) _ _
  | .call function arguments =>
      -- the callee is looked up in both, and is the same, since it has another name
      rw [functions, List.mem_cons, not_or] at apart
      have same := outcomeAll_substitute lowered replaced arguments apart.2
      rw [substitute, outcome_call, outcome_call, operations, length_substituteAll,
        overload_withConstant lowered (Ne.symm apart.1)]
      generalize outcomeAll (environment.withConstant name value) arguments = run at same ⊢
      generalize outcomeAll environment (substituteAll arguments name other) = otherRun at same ⊢
      split
      · exact .error List.nil_prefix .nil
      · cases same with
        | error carried exchanged =>
            exact .error (carried.trans (List.prefix_append _ _)) exchanged
        | value exchanged =>
            dsimp only
            split
            · exact .error (List.prefix_append _ _) exchanged
            · exact exchanged.concat (by simp) _ _

theorem outcomeAll_substitute (lowered : Environment.key name = name)
    (replaced : other.outcome environment = (.ok value, inside)) (trees : List Expr)
    (apart : name ∉ functionsAll trees) :
    Substituted name value inside (operationsAll trees)
      (outcomeAll (environment.withConstant name value) trees)
      (outcomeAll environment (substituteAll trees name other)) := by
  match trees with
  | [] => exact .value .nil
  | tree :: rest =>
      rw [functionsAll, List.mem_append, not_or] at apart
      have treeSame := outcome_substitute lowered replaced tree apart.1
      have restSame := outcomeAll_substitute lowered replaced rest apart.2
      rw [substituteAll, outcomeAll_cons, outcomeAll_cons, operationsAll]
      generalize tree.outcome (environment.withConstant name value) = run at treeSame ⊢
      generalize (tree.substitute name other).outcome environment = otherRun at treeSame ⊢
      generalize outcomeAll (environment.withConstant name value) rest = later at restSame ⊢
      generalize outcomeAll environment (substituteAll rest name other) = otherLater
        at restSame ⊢
      cases treeSame with
      | error carried exchanged =>
          exact .error (carried.trans (List.prefix_append _ _)) exchanged
      | value exchanged =>
          cases restSame with
          | error carried restExchanged =>
              exact .error ((List.prefix_append_right_inj _).mpr carried)
                (exchanged.append restExchanged)
          | value restExchanged => exact .value (exchanged.append restExchanged)

end

/-- The steps of an evaluation are those of the operations up to the one at which it ends. -/
theorem exists_carries (environment : Environment) (tree : Expr) :
    ∃ carried, carried <+: tree.operations ∧
      List.Forall₂ (Carries environment) carried (tree.outcome environment).2 := by
  have explained := @outcome_explained environment tree
  rcases run : tree.outcome environment with ⟨error | result, steps⟩
  · rw [run] at explained
    obtain ⟨form, before, behind, carried, occurs, fails, added, _⟩ := explained
    refine ⟨before ++ carried, ?_, added.imp fun _ _ => Adds.carries⟩
    rw [occurs.operations_eq, List.append_assoc]
    exact (List.prefix_append_right_inj before).mpr
      (fails.carried_prefix.trans (List.prefix_append _ _))
  · rw [run] at explained
    exact ⟨_, List.prefix_rfl, explained.1.imp fun _ _ => Adds.carries⟩

/-- The operations whose steps are exchanged are those that have been carried out. -/
theorem Substituted.exists_carries {tree : Expr} {otherOutcome : Except EvalError Float × List Step}
    (same : Substituted name value inside tree.operations (tree.outcome environment) otherOutcome) :
    otherOutcome.1 = tree.evaluate environment ∧
      ∃ carried, carried <+: tree.operations ∧
        List.Forall₂ (Carries environment) carried (tree.outcome environment).2 ∧
        Exchanged name value inside carried (tree.outcome environment).2 otherOutcome.2 := by
  obtain ⟨carried, inFront, carries⟩ := Expr.exists_carries environment tree
  rw [evaluate_eq]
  generalize tree.outcome environment = run at same carries ⊢
  cases same with
  | value exchanged =>
      have length := carries.length_eq.trans exchanged.length_eq.symm
      obtain rfl := inFront.eq_of_length length
      exact ⟨rfl, _, inFront, carries, exchanged⟩
  | @error error others first second otherInFront exchanged =>
      have length := carries.length_eq.trans exchanged.length_eq.symm
      have shorter := List.prefix_of_prefix_length_le inFront otherInFront (Nat.le_of_eq length)
      obtain rfl := shorter.eq_of_length length
      exact ⟨rfl, _, inFront, carries, exchanged⟩

/-- The step of an operation that is no look-up of a name is not called like the name. -/
theorem Adds.operation_ne {form : Expr} {step : Step} (isName : Token.IsName name)
    (different : form ≠ .constant name) (adds : Adds environment form step) :
    step.operation ≠ name := by
  obtain ⟨character, tail, whole, _, continues, _⟩ := isName.run
  rw [← whole] at continues
  -- the text of any other step holds a character that no name has
  have foreign : ∀ mark characters, Token.continuesName mark = false → mark ∈ characters →
      String.ofList characters ≠ name := by
    rintro mark characters stops member rfl
    rw [String.toList_ofList] at continues
    rw [continues mark member] at stops
    contradiction
  cases adds with
  | constant found =>
      rintro rfl
      exact different rfl
  | negate _ => exact foreign '-' _ (by decide +kernel) List.mem_cons_self
  | binary _ _ _ =>
      exact foreign ' ' _ (by decide +kernel) (List.mem_append_right _ List.mem_cons_self)
  | call _ _ _ => exact foreign '(' _ (by decide +kernel) (by simp [callCharacters])

/-- Where the name is one that can be read, its look-ups are found by their texts. -/
theorem Exchanged.eq_filter (isName : Token.IsName name)
    (exchanged : Exchanged name value [] operations first second)
    (carries : List.Forall₂ (Carries environment) operations first) :
    second = first.filter (·.operation != name) := by
  induction exchanged with
  | nil => rfl
  | lookUp _ induction =>
      rw [List.forall₂_cons] at carries
      rw [List.filter_cons_of_neg (by simp), ← induction carries.2, List.nil_append]
  | other different _ induction =>
      rw [List.forall₂_cons] at carries
      have operation := carries.1.adds.operation_ne isName different
      rw [List.filter_cons_of_pos (by simpa using operation), ← induction carries.2]

mutual

/-- What is replaced is gone. -/
theorem mem_names_substitute (tree : Expr) {found : String}
    (member : found ∈ (tree.substitute name other).names) (apart : name ∉ tree.functions) :
    found ∈ other.names ∨ found ∈ tree.names ∧ found ≠ name := by
  match tree with
  | .literal number => simp [substitute, names] at member
  | .constant bound =>
      rw [substitute] at member
      split at member
      · exact .inl member
      · next different =>
          obtain rfl := List.mem_singleton.mp member
          exact .inr ⟨List.mem_cons_self, different⟩
  | .negate operand => exact mem_names_substitute operand member apart
  | .binary operator left right =>
      rw [functions, List.mem_append, not_or] at apart
      rw [substitute, names, List.mem_append] at member
      rcases member with inLeft | inRight
      · exact (mem_names_substitute left inLeft apart.1).imp_right
          (.imp_left (List.mem_append_left _))
      · exact (mem_names_substitute right inRight apart.2).imp_right
          (.imp_left (List.mem_append_right _))
  | .call function arguments =>
      rw [functions, List.mem_cons, not_or] at apart
      rw [substitute, names, List.mem_cons] at member
      rcases member with rfl | inside
      · exact .inr ⟨List.mem_cons_self, Ne.symm apart.1⟩
      · exact (mem_namesAll_substituteAll arguments inside apart.2).imp_right
          (.imp_left (List.mem_cons_of_mem _))

theorem mem_namesAll_substituteAll (trees : List Expr) {found : String}
    (member : found ∈ namesAll (substituteAll trees name other))
    (apart : name ∉ functionsAll trees) :
    found ∈ other.names ∨ found ∈ namesAll trees ∧ found ≠ name := by
  match trees with
  | [] => simp [substituteAll, namesAll] at member
  | tree :: rest =>
      rw [functionsAll, List.mem_append, not_or] at apart
      rw [substituteAll, namesAll, List.mem_append] at member
      rcases member with first | behind
      · exact (mem_names_substitute tree first apart.1).imp_right
          (.imp_left (List.mem_append_left _))
      · exact (mem_namesAll_substituteAll rest behind apart.2).imp_right
          (.imp_left (List.mem_append_right _))

end

/-- Both evaluations have the same value or error.  The steps of the first are those of the
operations that it has carried out, and the second has the same steps, but for those of the
look-ups. -/
theorem evaluateTraced_substitute (lowered : Environment.key name = name)
    (replaced : other.outcome environment = (.ok value, inside)) {tree : Expr}
    (apart : name ∉ tree.functions) :
    let bound := environment.withConstant name value
    (tree.substitute name other).evaluate environment = tree.evaluate bound ∧
      ∃ carried steps exchanged, carried <+: tree.operations ∧
        List.Forall₂ (Carries bound) carried steps ∧
        Exchanged name value inside carried steps exchanged ∧
        ∀ trace,
          tree.evaluateTraced bound trace = (tree.evaluate bound, trace.recordAll steps) ∧
            (tree.substitute name other).evaluateTraced environment trace =
              (tree.evaluate bound, trace.recordAll exchanged) := by
  intro bound
  obtain ⟨result, carried, inFront, carries, exchanged⟩ :=
    (outcome_substitute lowered replaced tree apart).exists_carries
  refine ⟨(evaluate_eq _ _).trans result, carried, _, _, inFront, carries, exchanged, ?_⟩
  intro trace
  rw [evaluateTraced_eq, evaluateTraced_eq, result, ← evaluate_eq]
  exact ⟨rfl, rfl⟩

end Exchanged

end Expr

end Reckoner
