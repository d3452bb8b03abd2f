import Reckoner.Proofs.Expr.Evaluation
import Reckoner.Proofs.Number.Encoding

/-!
# Expressions without signs on literals

A literal below zero is written like the negation of a positive literal, and so it is read back as
one.  `normal` makes this the only difference: the sign of every such literal becomes a negation.
The value of an expression stays the same, and so does the reason why it has none.

The steps of an evaluation do change, since the negation is a step of its own; so the comparison
is made where no steps are kept.
-/

namespace Reckoner

namespace Expr

mutual

/-- The numbers in an expression, from left to right. -/
def literals : Expr → List Float
  | .literal value => [value]
  | .constant _ => []
  | .negate operand => operand.literals
  | .binary _ left right => left.literals ++ right.literals
  | .call _ arguments => literalsAll arguments

def literalsAll : List Expr → List Float
  | [] => []
  | argument :: rest => argument.literals ++ literalsAll rest

end

mutual

def names : Expr → List String
  | .literal _ => []
  | .constant name => [name]
  | .negate operand => operand.names
  | .binary _ left right => left.names ++ right.names
  | .call function arguments => function :: namesAll arguments

def namesAll : List Expr → List String
  | [] => []
  | argument :: rest => argument.names ++ namesAll rest

end

mutual

/-- The expression with a negation for the sign of every literal. -/
def normal : Expr → Expr
  | .literal value =>
    if Number.isNegative value then .negate (.literal (-value)) else .literal value
  | .constant name => .constant name
  | .negate operand => .negate operand.normal
  | .binary operator left right => .binary operator left.normal right.normal
  | .call function arguments => .call function (normalAll arguments)

def normalAll : List Expr → List Expr
  | [] => []
  | argument :: rest => argument.normal :: normalAll rest

end

mutual

theorem normal_eq_self (tree : Expr)
    (plain : ∀ value ∈ tree.literals, Number.isNegative value = false) : tree.normal = tree := by
  match tree with
  | .literal value =>
      have nonnegative := plain value List.mem_cons_self
      simp [normal, nonnegative]
  | .constant name => rfl
  | .negate operand =>
      rw [literals] at plain
      rw [normal, normal_eq_self operand plain]
  | .binary operator left right =>
      rw [literals] at plain
      have leftSame := normal_eq_self left fun value member =>
        plain value (List.mem_append_left _ member)
      have rightSame := normal_eq_self right fun value member =>
        plain value (List.mem_append_right _ member)
      rw [normal, leftSame, rightSame]
  | .call function arguments =>
      rw [literals] at plain
      rw [normal, normalAll_eq_self arguments plain]

theorem normalAll_eq_self (arguments : List Expr)
    (plain : ∀ value ∈ literalsAll arguments, Number.isNegative value = false) :
    normalAll arguments = arguments := by
  match arguments with
  | [] => rfl
  | argument :: rest =>
      rw [literalsAll] at plain
      have argumentSame := normal_eq_self argument fun value member =>
        plain value (List.mem_append_left _ member)
      have restSame := normalAll_eq_self rest fun value member =>
        plain value (List.mem_append_right _ member)
      rw [normalAll, argumentSame, restSame]

end

theorem length_normalAll (arguments : List Expr) :
    (normalAll arguments).length = arguments.length := by
  induction arguments with
  | nil => rfl
  | cons argument rest induction => rw [normalAll, List.length_cons, List.length_cons, induction]

section Quiet

variable {environment : Environment} {trace : Trace}

theorem record_of_quiet (quiet : trace.detailed = false) (operation : List Char) (result : Float) :
    trace.record operation result = trace := by
  simp [Trace.record, quiet]

theorem unchanged_of_run {α : Type} {outcome : α × Trace} {result : α} {after : Trace}
    (run : outcome = (result, after)) (unchanged : outcome.2 = trace) : after = trace := by
  rw [run] at unchanged
  exact unchanged

/-- Without details an evaluation leaves the trace as it is. -/
theorem evaluateTraced_quiet (quiet : trace.detailed = false) (tree : Expr) :
    (evaluateTraced environment trace tree).2 = trace := by
  rw [evaluateTraced_eq]
  exact Trace.recordAll_of_quiet quiet _

/-- A sign that is written as a negation gives the number back. -/
theorem evaluate_negated_literal {value : Float} (quiet : trace.detailed = false)
    (isFinite : value.isFinite = true) :
    evaluateTraced environment trace (.negate (.literal (-value))) =
      evaluateTraced environment trace (.literal value) := by
  have negated : finite (-value) = .ok (-value) := if_pos (Number.isFinite_neg isFinite)
  simp only [evaluateTraced, negated, record_of_quiet quiet, Number.neg_neg isFinite]

mutual

theorem evaluateTraced_normal (quiet : trace.detailed = false) (tree : Expr)
    (isFinite : ∀ value ∈ tree.literals, value.isFinite = true) :
    evaluateTraced environment trace tree.normal = evaluateTraced environment trace tree := by
  match tree with
  | .literal value =>
      rw [normal]
      split
      · exact evaluate_negated_literal quiet (isFinite value List.mem_cons_self)
      · rfl
  | .constant name => rfl
  | .negate operand =>
      rw [literals] at isFinite
      simp only [normal, evaluateTraced, evaluateTraced_normal quiet operand isFinite]
  | .binary operator left right =>
      rw [literals] at isFinite
      have leftSame := @evaluateTraced_normal quiet left fun value member =>
        isFinite value (List.mem_append_left _ member)
      have rightSame := @evaluateTraced_normal quiet right fun value member =>
        isFinite value (List.mem_append_right _ member)
      have leftQuiet := @evaluateTraced_quiet environment trace quiet left
      simp only [normal, evaluateTraced, leftSame]
      split
      · rfl
      · next run => rw [unchanged_of_run run leftQuiet, rightSame]
  | .call function arguments =>
      rw [literals] at isFinite
      simp only [normal, evaluateTraced, length_normalAll,
        evaluateAll_normal quiet arguments isFinite]

theorem evaluateAll_normal (quiet : trace.detailed = false) (arguments : List Expr)
    (isFinite : ∀ value ∈ literalsAll arguments, value.isFinite = true) :
    evaluateAll environment trace (normalAll arguments) =
      evaluateAll environment trace arguments := by
  match arguments with
  | [] => rfl
  | argument :: rest =>
      rw [literalsAll] at isFinite
      have argumentSame := @evaluateTraced_normal quiet argument fun value member =>
        isFinite value (List.mem_append_left _ member)
      have restSame := @evaluateAll_normal quiet rest fun value member =>
        isFinite value (List.mem_append_right _ member)
      have argumentQuiet := @evaluateTraced_quiet environment trace quiet argument
      simp only [normalAll, evaluateAll, argumentSame]
      split
      · rfl
      · next run => rw [unchanged_of_run run argumentQuiet, restSame]

end

end Quiet

/-- An expression keeps its value, or the reason why it has none. -/
theorem evaluate_normal (environment : Environment) {tree : Expr}
    (isFinite : ∀ value ∈ tree.literals, value.isFinite = true) :
    tree.normal.evaluate environment = tree.evaluate environment :=
  congrArg Prod.fst (evaluateTraced_normal rfl tree isFinite)

end Expr

end Reckoner
