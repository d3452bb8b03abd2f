import Mathlib.Data.List.Forall2
import Reckoner.Proofs.Expr.Normal

/-!
# The steps of an evaluation

The steps of an evaluation are the operations of the expression in the order in which they are
carried out, operands first.  `Expr.operations` lists them without any evaluation: every form of the
expression except its literals.

An evaluation with a value has carried out all of them, and each step has the finite value of its
form.  An evaluation without a value stops at one form, which `Occurs` places among the operations.
The form is refused before its operands are looked at, or its operation is refused, or the result
is infinite: `Fails` tells these cases apart, and says which operations within the form have been
carried out.  In every case an operation is applied to finite operands only.
-/

namespace Reckoner

namespace Expr

mutual

/-- The forms of an expression that carry out an operation, in the order in which they do. -/
def operations : Expr → List Expr
  | .literal _ => []
  | .constant name => [.constant name]
  | .negate operand => operand.operations ++ [.negate operand]
  | .binary operator left right =>
    left.operations ++ right.operations ++ [.binary operator left right]
  | .call function arguments => operationsAll arguments ++ [.call function arguments]

def operationsAll : List Expr → List Expr
  | [] => []
  | argument :: rest => argument.operations ++ operationsAll rest

end

variable {environment : Environment}

/-- The operand has this value, which is finite. -/
structure Yields (environment : Environment) (operand : Expr) (value : Float) : Prop where
  evaluate : operand.evaluate environment = .ok value
  finite : value.isFinite = true

/-- The step that a form adds when its operation is carried out on the finite values of its
operands.  The result may be infinite. -/
inductive Adds (environment : Environment) : Expr → Step → Prop where
  | constant {name : String} {value : Float} :
      environment.find? name = some (.constant value) →
      Adds environment (.constant name) ⟨name, value⟩
  | negate {operand : Expr} {value : Float} :
      Yields environment operand value →
      Adds environment (.negate operand)
        ⟨String.ofList ('-' :: Number.characters value), -value⟩
  | binary {operator : Operator} {left right : Expr} {leftValue rightValue result : Float} :
      Yields environment left leftValue → Yields environment right rightValue →
      operator.apply leftValue rightValue = .ok result →
      Adds environment (.binary operator left right)
        ⟨String.ofList (operator.stepCharacters leftValue rightValue), result⟩
  | call {function : String} {arguments : List Expr} {callee : Overload} {values : List Float}
      {result : Float} :
      overload environment function arguments.length = .ok callee →
      List.Forall₂ (Yields environment) arguments values → callee.apply values = .ok result →
      Adds environment (.call function arguments)
        ⟨String.ofList (callCharacters function values), result⟩

/-- The form adds this step, and the result of the step is the value of the form, if it is
finite. -/
structure Carries (environment : Environment) (form : Expr) (step : Step) : Prop where
  adds : Adds environment form step
  value : form.evaluate environment = Expr.finite step.result

/-- An evaluation stops at this form for this reason, when these operations within it have been
carried out. -/
inductive Fails (environment : Environment) : Expr → EvalError → List Expr → Prop where
  | literal {value : Float} :
      value.isFinite = false → Fails environment (.literal value) .nonFiniteResult []
  | unknown {name : String} :
      environment.find? name = none →
      Fails environment (.constant name) (.unknownIdentifier name) []
  | notConstant {name : String} {overloads : List Overload} :
      environment.find? name = some (.function overloads) →
      Fails environment (.constant name) (.notAConstant name) []
  | operator {operator : Operator} {left right : Expr} {leftValue rightValue : Float}
      {error : EvalError} :
      Yields environment left leftValue → Yields environment right rightValue →
      operator.apply leftValue rightValue = .error error →
      Fails environment (.binary operator left right) error (left.operations ++ right.operations)
  | refused {function : String} {arguments : List Expr} {error : EvalError} :
      overload environment function arguments.length = .error error →
      Fails environment (.call function arguments) error []
  | domain {function : String} {arguments : List Expr} {callee : Overload} {values : List Float}
      {refusal : Refusal} :
      overload environment function arguments.length = .ok callee →
      List.Forall₂ (Yields environment) arguments values →
      callee.apply values = .error refusal →
      Fails environment (.call function arguments) (.domain function refusal)
        (operationsAll arguments)
  | infinite {form : Expr} {step : Step} :
      Adds environment form step → step.result.isFinite = false →
      Fails environment form .nonFiniteResult form.operations

section Occurs

variable (form : Expr)

mutual

/-- The form stands in an expression, with these operations in front of it and behind it. -/
inductive Occurs : (before behind : List Expr) → (tree : Expr) → Prop where
  | here : Occurs [] [] form
  | negate {before behind : List Expr} {operand : Expr} :
      Occurs before behind operand →
      Occurs before (behind ++ [.negate operand]) (.negate operand)
  | left {before behind : List Expr} {operator : Operator} {left right : Expr} :
      Occurs before behind left →
      Occurs before (behind ++ right.operations ++ [.binary operator left right])
        (.binary operator left right)
  | right {before behind : List Expr} {operator : Operator} {left right : Expr} :
      Occurs before behind right →
      Occurs (left.operations ++ before) (behind ++ [.binary operator left right])
        (.binary operator left right)
  | argument {before behind : List Expr} {function : String} {arguments : List Expr} :
      OccursAmong before behind arguments →
      Occurs before (behind ++ [.call function arguments]) (.call function arguments)

inductive OccursAmong : (before behind : List Expr) → (trees : List Expr) → Prop where
  | head {before behind : List Expr} {tree : Expr} {rest : List Expr} :
      Occurs before behind tree →
      OccursAmong before (behind ++ operationsAll rest) (tree :: rest)
  | tail {before behind : List Expr} {tree : Expr} {rest : List Expr} :
      OccursAmong before behind rest →
      OccursAmong (tree.operations ++ before) behind (tree :: rest)

end

end Occurs

section Occurs

variable {form : Expr}

mutual

/-- The operations of a form that stands in an expression are a run of the expression's. -/
theorem Occurs.operations_eq {before behind : List Expr} {tree : Expr}
    (occurs : Occurs form before behind tree) :
    tree.operations = before ++ form.operations ++ behind := by
  match occurs with
  | .here => simp
  | .negate inner => simp [operations, inner.operations_eq]
  | .left inner => simp [operations, inner.operations_eq]
  | .right inner => simp [operations, inner.operations_eq]
  | .argument inner => simp [operations, inner.operations_eq]

theorem OccursAmong.operations_eq {before behind : List Expr} {trees : List Expr}
    (occurs : OccursAmong form before behind trees) :
    operationsAll trees = before ++ form.operations ++ behind := by
  match occurs with
  | .head inner => simp [operationsAll, inner.operations_eq]
  | .tail inner => simp [operationsAll, inner.operations_eq]

end

end Occurs

theorem yields_iff {tree : Expr} {value : Float} :
    Yields environment tree value ↔ ∃ steps, tree.outcome environment = (.ok value, steps) := by
  constructor
  · intro yields
    have success := yields.evaluate
    rw [evaluate_eq] at success
    exact ⟨_, Prod.ext success rfl⟩
  · rintro ⟨steps, run⟩
    have success : tree.evaluate environment = .ok value := by rw [evaluate_eq, run]
    exact ⟨success, isFinite_of_evaluateTraced success⟩

theorem forall_yields_iff {trees : List Expr} {values : List Float} :
    List.Forall₂ (Yields environment) trees values ↔
      ∃ steps, outcomeAll environment trees = (.ok values, steps) := by
  induction trees generalizing values with
  | nil =>
      constructor
      · intro none
        cases none
        exact ⟨[], rfl⟩
      · rintro ⟨steps, run⟩
        cases run
        exact .nil
  | cons tree rest induction =>
      rw [outcomeAll_cons]
      constructor
      · intro all
        cases all with
        | cons yields restYields =>
            obtain ⟨steps, run⟩ := yields_iff.mp yields
            obtain ⟨later, restRun⟩ := induction.mp restYields
            rw [run, restRun]
            exact ⟨steps ++ later, rfl⟩
      · rintro ⟨all, whole⟩
        rcases run : tree.outcome environment with ⟨_ | value, steps⟩
        · rw [run] at whole
          cases whole
        · rcases restRun : outcomeAll environment rest with ⟨_ | others, later⟩
          · rw [run, restRun] at whole
            cases whole
          · rw [run, restRun] at whole
            cases whole
            exact .cons (yields_iff.mpr ⟨steps, run⟩) (induction.mpr ⟨later, restRun⟩)

/-- Where the operation of a form is carried out, its result is the value of the form, if it is
finite. -/
theorem Adds.carries {form : Expr} {step : Step} (adds : Adds environment form step) :
    Carries environment form step := by
  refine ⟨adds, ?_⟩
  rw [evaluate_eq]
  cases adds with
  | constant found => rw [outcome_constant, found]
  | negate yields =>
      obtain ⟨steps, run⟩ := yields_iff.mp yields
      rw [outcome_negate, run]
  | binary leftYields rightYields applied =>
      obtain ⟨steps, leftRun⟩ := yields_iff.mp leftYields
      obtain ⟨later, rightRun⟩ := yields_iff.mp rightYields
      rw [outcome_binary, leftRun]
      dsimp only
      rw [rightRun]
      dsimp only
      rw [applied]
  | call found yields applied =>
      obtain ⟨steps, run⟩ := forall_yields_iff.mp yields
      rw [outcome_call, found]
      dsimp only
      rw [run]
      dsimp only
      rw [applied]

/-- All results are finite, but for the last, where that is the reason to stop. -/
structure Halts (error : EvalError) (steps : List Step) : Prop where
  finite : ∀ step ∈ steps.dropLast, step.result.isFinite = true
  reason : ∀ step ∈ steps.getLast?, step.result.isFinite = false → error = .nonFiniteResult

theorem halts_of_finite {error : EvalError} {steps : List Step}
    (finite : ∀ step ∈ steps, step.result.isFinite = true) : Halts error steps := by
  constructor
  · intro step member
    exact finite step (List.dropLast_subset _ member)
  · intro step member infinite
    rw [finite step (List.mem_of_getLast? member)] at infinite
    contradiction

theorem Halts.behind {error : EvalError} {earlier steps : List Step}
    (finite : ∀ step ∈ earlier, step.result.isFinite = true) (halts : Halts error steps) :
    Halts error (earlier ++ steps) := by
  cases steps with
  | nil =>
      rw [List.append_nil]
      exact halts_of_finite finite
  | cons first rest =>
      constructor
      · intro step member
        rw [List.dropLast_append_cons, List.mem_append] at member
        rcases member with inside | behind
        · exact finite step inside
        · exact halts.finite step behind
      · intro step member
        rw [List.getLast?_append_cons] at member
        exact halts.reason step member

/-- An evaluation stops for this reason, with the steps of the operations in front of the form at
which it does, and of those that have been carried out within the form. -/
def Stops (environment : Environment) (occurs : Expr → List Expr → List Expr → Prop)
    (error : EvalError) (steps : List Step) : Prop :=
  ∃ form before behind carried, occurs form before behind ∧ Fails environment form error carried ∧
    List.Forall₂ (Adds environment) (before ++ carried) steps ∧ Halts error steps

/-- The steps of an outcome are those of all operations, or of those up to the form at which the
evaluation stops. -/
def Explained {α : Type} (environment : Environment) (operations : List Expr)
    (occurs : Expr → List Expr → List Expr → Prop) : Except EvalError α × List Step → Prop
  | (.ok _, steps) =>
    List.Forall₂ (Adds environment) operations steps ∧
      ∀ step ∈ steps, step.result.isFinite = true
  | (.error error, steps) => Stops environment occurs error steps

section Explained

variable {occurs inner : Expr → List Expr → List Expr → Prop} {error : EvalError}
  {steps earlierSteps : List Step} {earlier : List Expr}

/-- What stops an operand stops the whole, behind the operations of the operands in front. -/
theorem Stops.behind (added : List.Forall₂ (Adds environment) earlier earlierSteps)
    (finite : ∀ step ∈ earlierSteps, step.result.isFinite = true)
    (stops : Stops environment inner error steps)
    (within : ∀ form before behind, inner form before behind →
      ∃ later, occurs form (earlier ++ before) later) :
    Stops environment occurs error (earlierSteps ++ steps) := by
  obtain ⟨form, before, behind, carried, place, fails, stepsAdded, halts⟩ := stops
  obtain ⟨later, place⟩ := within form before behind place
  refine ⟨form, earlier ++ before, later, carried, place, fails, ?_, halts.behind finite⟩
  rw [List.append_assoc]
  exact List.rel_append added stepsAdded

theorem Stops.first (stops : Stops environment inner error steps)
    (within : ∀ form before behind, inner form before behind →
      ∃ later, occurs form before later) :
    Stops environment occurs error steps :=
  stops.behind .nil (by simp) within

theorem Fails.stops {form : Expr} {carried : List Expr}
    (fails : Fails environment form error carried)
    (added : List.Forall₂ (Adds environment) carried steps) (halts : Halts error steps) :
    Stops environment (Occurs · · · form) error steps :=
  ⟨form, [], [], carried, .here, fails, added, halts⟩

/-- The operation of a form is its last step, whether its result is finite or not. -/
theorem Adds.explained {form : Expr} {step : Step} (adds : Adds environment form step)
    (formOperations : form.operations = earlier ++ [form])
    (added : List.Forall₂ (Adds environment) earlier earlierSteps)
    (finite : ∀ step ∈ earlierSteps, step.result.isFinite = true) :
    Explained environment form.operations (Occurs · · · form)
      (Expr.finite step.result, earlierSteps ++ [step]) := by
  have all : List.Forall₂ (Adds environment) form.operations (earlierSteps ++ [step]) := by
    rw [formOperations]
    exact List.rel_append added (.cons adds .nil)
  unfold Expr.finite
  split
  · next isFinite =>
      refine ⟨all, ?_⟩
      intro other member
      rcases List.mem_append.mp member with inside | last
      · exact finite other inside
      · rw [List.mem_singleton.mp last]
        exact isFinite
  · next infinite =>
      apply (Fails.infinite adds (Bool.eq_false_iff.mpr infinite)).stops all
      apply Halts.behind finite
      exact ⟨by simp, fun _ _ _ => rfl⟩

end Explained

mutual

theorem outcome_explained (tree : Expr) :
    Explained environment tree.operations (Occurs · · · tree) (tree.outcome environment) := by
  match tree with
  | .literal value =>
      rw [outcome_literal]
      unfold Expr.finite
      split
      · exact ⟨.nil, nofun⟩
      · next infinite =>
          exact (Fails.literal (Bool.eq_false_iff.mpr infinite)).stops .nil (halts_of_finite nofun)
  | .constant name =>
      rw [outcome_constant]
      split
      · next value found => exact (Adds.constant found).explained rfl .nil nofun
      · next overloads found =>
          exact (Fails.notConstant found).stops .nil (halts_of_finite nofun)
      · next found => exact (Fails.unknown found).stops .nil (halts_of_finite nofun)
  | .negate operand =>
      have inside := outcome_explained operand
      rw [outcome_negate]
      rcases run : operand.outcome environment with ⟨_ | value, steps⟩
      · rw [run] at inside
        exact inside.first fun form before behind place => ⟨_, .negate place⟩
      · rw [run] at inside
        have yields : Yields environment operand value := yields_iff.mpr ⟨steps, run⟩
        exact (Adds.negate yields).explained rfl inside.1 inside.2
  | .binary operator left right =>
      have leftInside := outcome_explained left
      have rightInside := outcome_explained right
      rw [outcome_binary]
      rcases leftRun : left.outcome environment with ⟨_ | leftValue, steps⟩
      · rw [leftRun] at leftInside
        exact leftInside.first fun form before behind place => ⟨_, .left place⟩
      · rw [leftRun] at leftInside
        have leftYields : Yields environment left leftValue := yields_iff.mpr ⟨steps, leftRun⟩
        rcases rightRun : right.outcome environment with ⟨_ | rightValue, later⟩
        · rw [rightRun] at rightInside
          exact rightInside.behind leftInside.1 leftInside.2
            fun form before behind place => ⟨_, .right place⟩
        · rw [rightRun] at rightInside
          have rightYields : Yields environment right rightValue :=
            yields_iff.mpr ⟨later, rightRun⟩
          have added := List.rel_append leftInside.1 rightInside.1
          have finite : ∀ step ∈ steps ++ later, step.result.isFinite = true :=
            List.forall_mem_append.mpr ⟨leftInside.2, rightInside.2⟩
          dsimp only
          split
          · next error refused =>
              exact (Fails.operator leftYields rightYields refused).stops added
                (halts_of_finite finite)
          · next result applied =>
              exact (Adds.binary leftYields rightYields applied).explained rfl added finite
  | .call function arguments =>
      have inside := outcomeAll_explained arguments
      rw [outcome_call]
      split
      · next error refused => exact (Fails.refused refused).stops .nil (halts_of_finite nofun)
      · next callee found =>
          rcases run : outcomeAll environment arguments with ⟨_ | values, steps⟩
          · rw [run] at inside
            exact inside.first fun form before behind place => ⟨_, .argument place⟩
          · rw [run] at inside
            have yields := forall_yields_iff.mpr ⟨steps, run⟩
            dsimp only
            split
            · next refusal refused =>
                exact (Fails.domain found yields refused).stops inside.1 (halts_of_finite inside.2)
            · next result applied =>
                exact (Adds.call found yields applied).explained rfl inside.1 inside.2

theorem outcomeAll_explained (trees : List Expr) :
    Explained environment (operationsAll trees) (OccursAmong · · · trees)
      (outcomeAll environment trees) := by
  match trees with
  | [] => exact ⟨.nil, nofun⟩
  | tree :: rest =>
      have inside := outcome_explained tree
      have restInside := outcomeAll_explained rest
      rw [outcomeAll_cons]
      rcases run : tree.outcome environment with ⟨_ | value, steps⟩
      · rw [run] at inside
        exact inside.first fun form before behind place => ⟨_, .head place⟩
      · rw [run] at inside
        rcases restRun : outcomeAll environment rest with ⟨_ | values, later⟩
        · rw [restRun] at restInside
          exact restInside.behind inside.1 inside.2
            fun form before behind place => ⟨_, .tail place⟩
        · rw [restRun] at restInside
          exact ⟨List.rel_append inside.1 restInside.1,
            List.forall_mem_append.mpr ⟨inside.2, restInside.2⟩⟩

end

end Expr

/-- The overloads take as many arguments, and do the same with finite ones. -/
structure Overload.AgreesOnFinite (overload other : Overload) : Prop where
  arity_eq : overload.arity = other.arity
  apply_eq : ∀ values, (∀ value ∈ values, value.isFinite = true) →
    overload.apply values = other.apply values

inductive Binding.AgreesOnFinite : Binding → Binding → Prop where
  | constant (value : Float) : AgreesOnFinite (.constant value) (.constant value)
  | function {overloads others : List Overload} :
      List.Forall₂ Overload.AgreesOnFinite overloads others →
      AgreesOnFinite (.function overloads) (.function others)

/-- The environments bind the same names, to constants of the same value and to functions that do
the same with finite arguments. -/
def Environment.AgreesOnFinite (environment other : Environment) : Prop :=
  ∀ name, Option.Rel Binding.AgreesOnFinite (environment.find? name) (other.find? name)

theorem Binding.AgreesOnFinite.refl (binding : Binding) : AgreesOnFinite binding binding := by
  cases binding with
  | constant value => exact .constant value
  | function overloads =>
      exact .function (List.forall₂_same.mpr fun overload _ => ⟨rfl, fun values _ => rfl⟩)

namespace Overload

variable {overloads others : List Overload}

theorem map_arity_eq (agree : List.Forall₂ AgreesOnFinite overloads others) :
    overloads.map arity = others.map arity := by
  induction agree with
  | nil => rfl
  | cons first _ induction => rw [List.map_cons, List.map_cons, first.arity_eq, induction]

theorem find?_agrees (agree : List.Forall₂ AgreesOnFinite overloads others) (count : Nat) :
    Option.Rel AgreesOnFinite (overloads.find? (·.arity == count))
      (others.find? (·.arity == count)) := by
  induction agree with
  | nil => exact .none
  | @cons overload other overloads others first _ induction =>
      rw [List.find?_cons, List.find?_cons, first.arity_eq]
      split
      · exact .some first
      · exact induction

end Overload

namespace Expr

section Agreement

variable {environment other : Environment}

/-- Where environments agree on the name of a function, a call is refused in both or in neither. -/
theorem overload_agrees {function : String}
    (bound : Option.Rel Binding.AgreesOnFinite (environment.find? function) (other.find? function))
    (count : Nat) :
    (∃ error, overload environment function count = .error error ∧
        overload other function count = .error error) ∨
      ∃ callee alternative, overload environment function count = .ok callee ∧
        overload other function count = .ok alternative ∧
        callee.AgreesOnFinite alternative := by
  unfold overload
  revert bound
  generalize environment.find? function = binding
  generalize other.find? function = otherBinding
  intro bound
  cases bound with
  | none => exact .inl ⟨_, rfl, rfl⟩
  | some bindings =>
      cases bindings with
      | constant value => exact .inl ⟨_, rfl, rfl⟩
      | @function overloads others same =>
          have found := Overload.find?_agrees same count
          dsimp only
          rw [Overload.map_arity_eq same]
          revert found
          generalize overloads.find? (·.arity == count) = callee
          generalize others.find? (·.arity == count) = alternative
          intro found
          cases found with
          | none => exact .inl ⟨_, rfl, rfl⟩
          | some agrees => exact .inr ⟨_, _, rfl, rfl, agrees⟩

theorem forall_isFinite_of_outcomeAll {trees : List Expr} {values : List Float}
    {steps : List Step} (run : outcomeAll environment trees = (.ok values, steps)) :
    ∀ value ∈ values, value.isFinite = true := by
  have yields := forall_yields_iff.mpr ⟨steps, run⟩
  clear run
  induction yields with
  | nil => simp
  | cons first _ induction =>
      intro value member
      rcases List.mem_cons.mp member with rfl | inside
      · exact first.finite
      · exact induction value inside

mutual

/-- Only what the names in an expression stand for matters, and of a function only what it does with
finite arguments. -/
theorem outcome_congr (tree : Expr)
    (agree : ∀ name ∈ tree.names,
      Option.Rel Binding.AgreesOnFinite (environment.find? name) (other.find? name)) :
    tree.outcome other = tree.outcome environment := by
  match tree with
  | .literal value => rfl
  | .constant name =>
      have bound := agree name List.mem_cons_self
      rw [outcome_constant, outcome_constant]
      revert bound
      generalize environment.find? name = binding
      generalize other.find? name = otherBinding
      intro bound
      cases bound with
      | none => rfl
      | some bindings => cases bindings <;> rfl
  | .negate operand => rw [outcome_negate, outcome_negate, outcome_congr operand agree]
  | .binary operator left right =>
      obtain ⟨leftAgree, rightAgree⟩ := List.forall_mem_append.mp agree
      rw [outcome_binary, outcome_binary, outcome_congr left leftAgree,
        outcome_congr right rightAgree]
  | .call function arguments =>
      obtain ⟨functionAgrees, argumentsAgree⟩ := List.forall_mem_cons.mp agree
      rw [outcome_call, outcome_call, outcomeAll_congr arguments argumentsAgree]
      rcases overload_agrees functionAgrees arguments.length with
        ⟨error, refused, otherRefused⟩ | ⟨callee, alternative, found, otherFound, agrees⟩
      · rw [refused, otherRefused]
      · rw [found, otherFound]
        dsimp only
        rcases run : outcomeAll environment arguments with ⟨_ | values, steps⟩
        · rfl
        · dsimp only
          rw [agrees.apply_eq values (forall_isFinite_of_outcomeAll run)]

theorem outcomeAll_congr (trees : List Expr)
    (agree : ∀ name ∈ namesAll trees,
      Option.Rel Binding.AgreesOnFinite (environment.find? name) (other.find? name)) :
    outcomeAll other trees = outcomeAll environment trees := by
  match trees with
  | [] => rfl
  | tree :: rest =>
      obtain ⟨treeAgrees, restAgree⟩ := List.forall_mem_append.mp agree
      rw [outcomeAll_cons, outcomeAll_cons, outcome_congr tree treeAgrees,
        outcomeAll_congr rest restAgree]

end

/-- What functions do with other arguments than finite ones does not matter. -/
theorem outcome_agrees (agree : environment.AgreesOnFinite other) (tree : Expr) :
    tree.outcome other = tree.outcome environment :=
  outcome_congr tree fun name _ => agree name

end Agreement

/-- An expression other than a literal is the last of its operations. -/
theorem exists_operations_concat {tree : Expr} (operation : ∀ number, tree ≠ .literal number) :
    ∃ earlier, tree.operations = earlier ++ [tree] := by
  cases tree with
  | literal number => exact absurd rfl (operation number)
  | constant name => exact ⟨[], rfl⟩
  | negate operand => exact ⟨_, rfl⟩
  | binary operator left right => exact ⟨_, rfl⟩
  | call function arguments => exact ⟨_, rfl⟩

/-- What has been carried out within a form begins its operations. -/
theorem Fails.carried_prefix {environment : Environment} {form : Expr} {error : EvalError}
    {carried : List Expr} (fails : Fails environment form error carried) :
    carried <+: form.operations := by
  cases fails with
  | literal _ => exact List.nil_prefix
  | unknown _ => exact List.nil_prefix
  | notConstant _ => exact List.nil_prefix
  | operator _ _ _ => exact List.prefix_append _ _
  | refused _ => exact List.nil_prefix
  | domain _ _ _ => exact List.prefix_append _ _
  | infinite _ _ => exact List.prefix_rfl

/-- A finite result of a form's operation is the value of the form. -/
theorem Carries.yields {environment : Environment} {form : Expr} {step : Step}
    (carries : Carries environment form step) (finite : step.result.isFinite = true) :
    Yields environment form step.result :=
  ⟨carries.value.trans (finite_eq_ok_iff.mpr ⟨rfl, finite⟩), finite⟩

/-- An evaluation has the same outcome whatever its trace holds, and only adds steps to it, if
steps are kept.

With a value, the steps are those of all operations, each with the finite value of its form.
Without a value they are those of the operations up to the form at which the evaluation stops, all
with finite results but for the last, where that is the reason to stop.  Functions are applied to
finite arguments only, so that it does not matter what they do with others. -/
theorem evaluateTraced_steps (environment : Environment) (tree : Expr) :
    ∃ steps : List Step,
      (∀ trace, evaluateTraced environment trace tree =
        (tree.evaluate environment, trace.recordAll steps)) ∧
      (∀ value, tree.evaluate environment = .ok value →
        List.Forall₂ (fun form step => Carries environment form step ∧
          Yields environment form step.result) tree.operations steps ∧
        ((∀ number, tree ≠ .literal number) →
          ∃ earlier operation, steps = earlier ++ [⟨operation, value⟩])) ∧
      (∀ error, tree.evaluate environment = .error error →
        ∃ form before behind carried, Occurs form before behind tree ∧
          Fails environment form error carried ∧ before ++ carried <+: tree.operations ∧
          List.Forall₂ (Carries environment) (before ++ carried) steps ∧ Halts error steps) ∧
      ∀ other, environment.AgreesOnFinite other → ∀ trace,
        evaluateTraced other trace tree = evaluateTraced environment trace tree := by
  have explained := @outcome_explained environment tree
  rcases run : tree.outcome environment with ⟨outcome, steps⟩
  have result : tree.evaluate environment = outcome := by rw [evaluate_eq, run]
  rw [run] at explained
  rw [result]
  refine ⟨steps, ?_, ?_, ?_, ?_⟩
  · intro trace
    rw [evaluateTraced_eq, run]
  · rintro value rfl
    obtain ⟨added, finite⟩ := explained
    have carried : List.Forall₂ (fun form step => Carries environment form step ∧
        Yields environment form step.result) tree.operations steps := by
      refine List.Forall₂.flip (List.Forall₂.imp ?_
        ((List.forall₂_and_left steps tree.operations).mpr ⟨finite, added.flip⟩))
      rintro step form ⟨isFinite, adds⟩
      exact ⟨adds.carries, adds.carries.yields isFinite⟩
    refine ⟨carried, ?_⟩
    intro operation
    obtain ⟨earlier, split⟩ := exists_operations_concat operation
    have reversed := List.forall₂_reverse_iff.mpr carried
    rw [split, List.reverse_append, List.reverse_singleton, List.singleton_append] at reversed
    obtain ⟨step, others, ⟨_, yields⟩, _, same⟩ := List.forall₂_cons_left_iff.mp reversed
    have last : step.result = value := by
      have both := yields.evaluate
      rw [result] at both
      cases both
      rfl
    refine ⟨others.reverse, step.operation, ?_⟩
    rw [← last, ← List.reverse_inj, same, List.reverse_append, List.reverse_reverse,
      List.reverse_singleton, List.singleton_append]
  · rintro error rfl
    obtain ⟨form, before, behind, carried, occurs, fails, added, halts⟩ := explained
    refine ⟨form, before, behind, carried, occurs, fails, ?_, added.imp fun _ _ => Adds.carries,
      halts⟩
    rw [occurs.operations_eq, List.append_assoc]
    exact (List.prefix_append_right_inj before).mpr
      (fails.carried_prefix.trans (List.prefix_append _ _))
  · intro other agree trace
    rw [evaluateTraced_eq, evaluateTraced_eq, outcome_agrees agree]

end Expr

end Reckoner
