import Mathlib.Data.List.Chain
import Reckoner.Builtin
import Reckoner.Proofs.Expr.Evaluation
import Reckoner.Proofs.Number.Order
import Reckoner.Proofs.Number.ReadBack

/-!
# Factorials

The factors of a factorial can be counted by a double to which one is added after every
multiplication.  Such a count stops growing where the doubles lie farther apart than one, and the
number that it has to reach can be as great as a double can be.  What ends the loop is the product,
which is infinite at the factor 171; up to there the count is exact.

`Multiplying.Runs` is this loop as a relation, with the number of its multiplications.  The loop
of the calculator, which counts with a natural number that is known beforehand, has the same result.
-/

namespace Reckoner

open Number (value infinity unitsPerOne units)

/-! ## Whole numbers -/

namespace Number

variable {number : Float} {count : Nat}

theorem value_zero : value 0 = 0 := by
  have none : units 0 = 0 := by decide +kernel
  rw [← abs_eq_zero, abs_value, magnitude, none, Nat.cast_zero, zero_div]

theorem lt_zero_iff (finite : number.isFinite = true) : number < 0 ↔ value number < 0 := by
  rw [lt_iff_value_lt finite (by decide +kernel), value_zero]

theorem units_eq_of_value (whole : value number = count) : units number = count * unitsPerOne := by
  have same : magnitude number = count := by
    rw [← abs_value, whole, Nat.abs_cast]
  rw [magnitude, div_eq_iff cast_unitsPerOne_pos.ne', ← Nat.cast_mul] at same
  exact Nat.cast_injective same

theorem value_of_units (nonnegative : isNegative number = false)
    (unitsEq : units number = count * unitsPerOne) : value number = count := by
  rw [value, nonnegative, magnitude, unitsEq, Nat.cast_mul]
  exact mul_div_cancel_right₀ _ cast_unitsPerOne_pos.ne'

theorem isWhole_of_value (finite : number.isFinite = true) (whole : value number = count) :
    isWhole number = true ∧ wholePart number = count := by
  have unitsEq := units_eq_of_value whole
  constructor
  · rw [isWhole, finite, unitsEq, Nat.mul_mod_left]
    rfl
  · rw [wholePart, unitsEq, Nat.mul_div_cancel _ unitsPerOne_pos]

/-- A whole number that is not negative has a natural number as its value. -/
theorem value_of_isWhole (whole : isWhole number = true) (nonnegative : ¬ value number < 0) :
    value number = wholePart number := by
  obtain ⟨_, remainder⟩ := Bool.and_eq_true_iff.mp whole
  have parts := Nat.div_add_mod' (units number) unitsPerOne
  rw [eq_of_beq remainder, Nat.add_zero] at parts
  rw [← abs_of_nonneg (not_lt.mp nonnegative), abs_value, magnitude,
    div_eq_iff cast_unitsPerOne_pos.ne', ← Nat.cast_mul, wholePart, parts]

end Number

namespace Builtin

/-- The product of the factors from one on, rounded after each multiplication. -/
def risingProduct : (count : Nat) → Float
  | 0 => 1
  | count + 1 => risingProduct count * Float.ofNat (count + 1)

/-- The next factor and the product of those before it. -/
structure Multiplying where
  factor : Float
  product : Float

namespace Multiplying

/-- The number has not been reached, and the product is finite. -/
def GoesOn (number : Float) (state : Multiplying) : Prop :=
  state.factor ≤ number ∧ state.product.isFinite = true

def next (state : Multiplying) : Multiplying where
  factor := state.factor + 1
  product := state.product * state.factor

/-- The loop ends after this many multiplications. -/
inductive Runs (number : Float) : Multiplying → Nat → Multiplying → Prop where
  | stop {state : Multiplying} : ¬ state.GoesOn number → Runs number state 0 state
  | multiply {state final : Multiplying} {multiplications : Nat} : state.GoesOn number →
      Runs number state.next multiplications final →
      Runs number state (multiplications + 1) final

theorem Runs.unique {number : Float} {state final other : Multiplying}
    {multiplications others : Nat} (runs : Runs number state multiplications final)
    (otherRuns : Runs number state others other) :
    others = multiplications ∧ other = final := by
  induction runs generalizing others with
  | stop ends =>
      cases otherRuns with
      | stop => exact ⟨rfl, rfl⟩
      | multiply goesOn => exact absurd goesOn ends
  | multiply goesOn _ induction =>
      cases otherRuns with
      | stop ends => exact absurd goesOn ends
      | multiply _ otherRuns =>
          obtain ⟨rfl, same⟩ := induction otherRuns
          exact ⟨rfl, same⟩

end Multiplying

/-! ## The count and the product -/

/-- One after the other, the factors that can occur are finite and lie one apart. -/
theorem factors_isChain :
    List.IsChain (fun factor following : Float => factor + 1 = following ∧
      units following = units factor + unitsPerOne ∧ following.isFinite = true ∧
      Number.isNegative following = false) ((List.range 173).map Float.ofNat) := by
  decide +kernel

theorem factor_step {factor : Nat} (small : factor < 172) :
    Float.ofNat factor + 1 = Float.ofNat (factor + 1) ∧
      units (Float.ofNat (factor + 1)) = units (Float.ofNat factor) + unitsPerOne ∧
      (Float.ofNat (factor + 1)).isFinite = true ∧
      Number.isNegative (Float.ofNat (factor + 1)) = false := by
  have inside : factor + 1 < ((List.range 173).map Float.ofNat).length := by
    rw [List.length_map, List.length_range]
    omega
  have step := List.isChain_iff_getElem.mp factors_isChain factor inside
  simpa using step

theorem factor_exact {factor : Nat} (small : factor ≤ 172) :
    (Float.ofNat factor).isFinite = true ∧ value (Float.ofNat factor) = factor := by
  have counted : ∀ factor ≤ 172, units (Float.ofNat factor) = factor * unitsPerOne := by
    intro factor
    induction factor with
    | zero => exact fun _ => by decide +kernel
    | succ factor induction =>
        intro small
        rw [(factor_step small).2.1, induction (Nat.le_of_succ_le small), Nat.succ_mul]
  cases factor with
  | zero => exact ⟨by decide +kernel, Number.value_zero.trans Nat.cast_zero.symm⟩
  | succ factor =>
      obtain ⟨_, _, finite, nonnegative⟩ := factor_step small
      exact ⟨finite, Number.value_of_units nonnegative (counted _ small)⟩

/-- The product is finite up to the factor 170, and infinite at the next one. -/
theorem risingProduct_range :
    (∀ count ∈ List.range 171, (risingProduct count).isFinite = true) ∧
      risingProduct 171 = infinity := by
  decide +kernel

theorem risingProduct_one : risingProduct 1 = 1 := by
  decide +kernel

theorem isFinite_risingProduct {count : Nat} (small : count ≤ 170) :
    (risingProduct count).isFinite = true :=
  risingProduct_range.1 count (List.mem_range.mpr (Nat.lt_succ_of_le small))

theorem not_isFinite_infinity : infinity.isFinite = false := by
  decide +kernel

section Loop

variable {number : Float} {count : Nat} (finite : number.isFinite = true)
  (whole : value number = count)
include finite whole

theorem goesOn_iff {factor : Nat} {product : Float} (small : factor ≤ 172) :
    Multiplying.GoesOn number ⟨Float.ofNat factor, product⟩ ↔
      factor ≤ count ∧ product.isFinite = true := by
  obtain ⟨factorFinite, factorValue⟩ := factor_exact small
  rw [Multiplying.GoesOn, Number.le_iff_value_le factorFinite finite, factorValue, whole,
    Nat.cast_le]

/-- The loop goes on from any number of factors to as many as there are in the product at the end.
A product without factors is the one with the factor one. -/
theorem exists_runs {done remaining : Nat} (begun : 1 ≤ done)
    (target : done + remaining = max 1 (min count 171)) :
    ∃ final, Multiplying.Runs number ⟨Float.ofNat (done + 1), risingProduct done⟩ remaining final ∧
      final.product = risingProduct (max 1 (min count 171)) := by
  induction remaining generalizing done with
  | zero =>
      rw [Nat.add_zero] at target
      refine ⟨_, .stop ?_, congrArg risingProduct target⟩
      rw [goesOn_iff finite whole (by omega)]
      rintro ⟨reached, productFinite⟩
      -- the number has not been reached, so the product ends the loop
      have last : done = 171 := by omega
      rw [last, risingProduct_range.2, not_isFinite_infinity] at productFinite
      contradiction
  | succ remaining induction =>
      obtain ⟨final, runs, product⟩ := @induction (done + 1) (by omega) (by omega)
      have goesOn : Multiplying.GoesOn number ⟨Float.ofNat (done + 1), risingProduct done⟩ :=
        (goesOn_iff finite whole (by omega)).mpr ⟨by omega, isFinite_risingProduct (by omega)⟩
      refine ⟨final, .multiply goesOn ?_, product⟩
      rw [Multiplying.next, (factor_step (by omega)).1]
      exact runs

/-- Counting with doubles comes to the same product as counting with natural numbers. -/
theorem multiplyUp_eq {state final : Multiplying} {multiplications factor : Nat}
    (runs : Multiplying.Runs number state multiplications final)
    (start : state.factor = Float.ofNat factor) (small : factor + multiplications ≤ 172) :
    multiplyUp (count + 1 - factor) factor state.product = final.product := by
  induction runs generalizing factor with
  | @stop state ends =>
      obtain ⟨current, product⟩ := state
      change current = Float.ofNat factor at start
      subst start
      rw [Nat.add_zero] at small
      rw [goesOn_iff finite whole small] at ends
      by_cases reached : factor ≤ count
      · rw [Nat.succ_sub reached, multiplyUp, if_neg fun finite => ends ⟨reached, finite⟩]
      · rw [Nat.sub_eq_zero_of_le (Nat.not_le.mp reached), multiplyUp]
  | @multiply state final multiplications goesOn _ induction =>
      obtain ⟨current, product⟩ := state
      change current = Float.ofNat factor at start
      subst start
      obtain ⟨reached, productFinite⟩ := (goesOn_iff finite whole (by omega)).mp goesOn
      rw [Nat.succ_sub reached, multiplyUp, if_pos productFinite, ← Nat.succ_sub_succ]
      exact induction (factor_step (by omega)).1 (by omega)

theorem factorial_of_value : factorial number = .ok (multiplyUp (count + 1 - 2) 2 1) := by
  have nonnegative : ¬ number < 0 := by
    rw [Number.lt_zero_iff finite, whole]
    exact not_lt.mpr (Nat.cast_nonneg count)
  obtain ⟨isWhole, part⟩ := Number.isWhole_of_value finite whole
  rw [factorial, if_neg nonnegative, if_pos isWhole, part]
  rfl

/-- The loop ends, and its product is the factorial. -/
theorem factorial_runs :
    ∃ final, Multiplying.Runs number ⟨2, 1⟩ (max 1 (min count 171) - 1) final ∧
      final.product = risingProduct (max 1 (min count 171)) ∧
      factorial number = .ok final.product := by
  obtain ⟨final, runs, product⟩ :=
    @exists_runs number count finite whole 1 (max 1 (min count 171) - 1) (Nat.le_refl 1) (by omega)
  rw [risingProduct_one] at runs
  refine ⟨final, runs, product, ?_⟩
  rw [factorial_of_value finite whole, ← multiplyUp_eq finite whole runs rfl (by omega)]

end Loop

/-- Only for whole numbers that are not negative there is a factorial. -/
theorem value_of_factorial {number product : Float} (accepted : factorial number = .ok product) :
    ∃ count : Nat, number.isFinite = true ∧ value number = count := by
  unfold factorial at accepted
  split at accepted
  · cases accepted
  · next nonnegative =>
      split at accepted
      · next whole =>
          obtain ⟨finite, _⟩ := Bool.and_eq_true_iff.mp whole
          rw [Number.lt_zero_iff finite] at nonnegative
          exact ⟨_, finite, Number.value_of_isWhole whole nonnegative⟩
      · cases accepted

/-- The value of a call is that of the function at the value of its argument, if it is finite. -/
theorem evaluateTraced_call_unary {environment : Environment} {function : String}
    {operation : Float → Except Refusal Float} {argument : Expr} {number result : Float}
    (overloaded : Expr.overload environment function 1 = .ok (.unary operation)) (trace : Trace)
    (evaluated : (argument.evaluateTraced environment trace).1 = .ok number)
    (applied : operation number = .ok result) :
    ((Expr.call function [argument]).evaluateTraced environment trace).1 =
      Expr.finite result := by
  have last : Expr.outcomeAll environment [] = (.ok [], []) := rfl
  rw [Expr.evaluateTraced_eq] at evaluated ⊢
  rcases outcome : argument.outcome environment with ⟨_, steps⟩
  rw [outcome] at evaluated
  subst evaluated
  rw [Expr.outcome_call, List.length_singleton, overloaded, Expr.outcomeAll_cons, outcome, last]
  simp only [Overload.apply, applied]

theorem overload_factorial :
    ∀ function ∈ ["factorial", "fact"],
      Expr.overload Builtin.environment function 1 = .ok (.unary factorial) := by
  intro function member
  rcases List.mem_pair.mp member with rfl | rfl
  · rfl
  · rfl

/-- A factorial is refused exactly where there is none.  Otherwise the loop that counts with doubles
ends after at most 170 multiplications, and with the product of the factors up to the number or
with an infinite one, which no evaluation hands on. -/
theorem factorial_ends (number : Float) :
    ((∃ refusal, factorial number = .error refusal) ↔
        number.isFinite = false ∨ value number < 0 ∨ ∀ whole : ℤ, value number ≠ whole) ∧
      (∀ count : Nat, number.isFinite = true → value number = count →
        ∃ multiplications final, multiplications ≤ 170 ∧
          Multiplying.Runs number ⟨2, 1⟩ multiplications final ∧
          (∀ others other, Multiplying.Runs number ⟨2, 1⟩ others other →
            others = multiplications ∧ other = final) ∧
          factorial number = .ok final.product ∧
          (count ≤ 170 →
            final.product = risingProduct count ∧ final.product.isFinite = true) ∧
          (171 ≤ count → final.product = infinity ∧
            ∀ environment trace function argument,
              Expr.overload environment function 1 = .ok (.unary factorial) →
              (Expr.evaluateTraced environment trace argument).1 = .ok number →
              (Expr.evaluateTraced environment trace (.call function [argument])).1 =
                .error .nonFiniteResult)) ∧
      ∀ function ∈ ["factorial", "fact"],
        Expr.overload Builtin.environment function 1 = .ok (.unary factorial) := by
  refine ⟨⟨?_, ?_⟩, ?_, overload_factorial⟩
  · rintro ⟨refusal, refused⟩
    by_contra accepted
    rw [not_or, not_or, not_forall, Bool.not_eq_false, not_lt] at accepted
    obtain ⟨finite, nonnegative, integer, whole⟩ := accepted
    rw [not_not] at whole
    rw [whole, Int.cast_nonneg_iff] at nonnegative
    obtain ⟨count, rfl⟩ := Int.eq_ofNat_of_zero_le nonnegative
    rw [Int.cast_natCast] at whole
    rw [factorial_of_value finite whole] at refused
    cases refused
  · intro outside
    cases result : factorial number with
    | error refusal => exact ⟨refusal, rfl⟩
    | ok product =>
        obtain ⟨count, finite, whole⟩ := value_of_factorial result
        rcases outside with infinite | negative | fractional
        · rw [finite] at infinite
          contradiction
        · rw [whole] at negative
          exact absurd (Nat.cast_nonneg count) (not_le.mpr negative)
        · exact absurd whole (fractional count)
  · intro count finite whole
    obtain ⟨final, runs, product, accepted⟩ := factorial_runs finite whole
    refine ⟨_, final, by omega, runs, fun _ _ otherRuns => runs.unique otherRuns, accepted, ?_, ?_⟩
    · intro small
      have same : final.product = risingProduct count := by
        rw [product]
        cases count with
        | zero => exact risingProduct_one
        | succ count => rw [Nat.min_eq_left (by omega), Nat.max_eq_right (by omega)]
      exact ⟨same, same ▸ isFinite_risingProduct small⟩
    · intro great
      have infinite : final.product = infinity := by
        rw [product, Nat.min_eq_right great]
        exact risingProduct_range.2
      refine ⟨infinite, fun environment trace function argument overloaded evaluated => ?_⟩
      rw [evaluateTraced_call_unary overloaded trace evaluated accepted, infinite, Expr.finite,
        not_isFinite_infinity]
      rfl

/-- The greatest power of two does not change when one is added to it, but its factorial ends. -/
theorem factorial_ends_of_greatest :
    let number := Number.ofUnits false (Nat.pow 2 1023 * unitsPerOne)
    let call : Expr := .call "fact" [.literal number]
    number + 1 = number ∧ number.isFinite = true ∧ value number = (Nat.pow 2 1023 : Nat) ∧
      171 ≤ Nat.pow 2 1023 ∧
      (∃ multiplications final, multiplications ≤ 170 ∧
        Multiplying.Runs number ⟨2, 1⟩ multiplications final) ∧
      factorial number = .ok infinity ∧
      (Expr.evaluateTraced Builtin.environment (.start true) call).1 =
        .error .nonFiniteResult := by
  intro number call
  have unchanged : number + 1 = number := by decide +kernel
  have finite : number.isFinite = true := by decide +kernel
  have nonnegative : Number.isNegative number = false := by decide +kernel
  have counted : units number = Nat.pow 2 1023 * unitsPerOne := by decide +kernel
  have great : 171 ≤ Nat.pow 2 1023 := by decide +kernel
  have whole : value number = (Nat.pow 2 1023 : Nat) := Number.value_of_units nonnegative counted
  obtain ⟨multiplications, final, few, runs, _, accepted, _, infinite⟩ :=
    (factorial_ends number).2.1 _ finite whole
  obtain ⟨product, unevaluated⟩ := infinite great
  have overloaded := (factorial_ends number).2.2 "fact" (by simp)
  refine ⟨unchanged, finite, whole, great, ⟨multiplications, final, few, runs⟩,
    product ▸ accepted, ?_⟩
  refine unevaluated _ _ _ _ overloaded ?_
  rw [Expr.evaluateTraced, Expr.finite, if_pos finite]

end Builtin

end Reckoner
