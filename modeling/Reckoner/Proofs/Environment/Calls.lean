import Reckoner.Builtin
import Reckoner.Proofs.Environment
import Reckoner.Proofs.Expr.Steps

/-!
# What calls find

In an environment that was made by registrations, a call finds the function that was registered
last for its name and its number of arguments (`Environment.overload_registerAll`).  A call without
one is told for which numbers there are some, and no function is ever applied to more or fewer
arguments than it takes: a refusal is always the function's own.  The built-in environment is one of
these.
-/

namespace Reckoner

namespace Overload

/-- The function itself refuses some arguments, as many as it takes. -/
inductive Refuses : Overload → Refusal → Prop where
  | unary {operation : Float → Except Refusal Float} {argument : Float} {refusal : Refusal} :
      operation argument = .error refusal → Refuses (.unary operation) refusal
  | binary {operation : Float → Float → Except Refusal Float} {first second : Float}
      {refusal : Refusal} :
      operation first second = .error refusal → Refuses (.binary operation) refusal

theorem refuses_of_apply {overload : Overload} {values : List Float} {refusal : Refusal}
    (count : values.length = overload.arity) (refused : overload.apply values = .error refusal) :
    overload.Refuses refusal := by
  cases overload with
  | unary operation =>
      obtain ⟨argument, rfl⟩ := List.length_eq_one_iff.mp count
      exact .unary refused
  | binary operation =>
      obtain ⟨first, second, rfl⟩ := List.length_eq_two.mp count
      exact .binary refused

end Overload

namespace Registration

variable {registrations : List Registration} {registration : Registration} {name : String}
  {count : Nat} {found : Overload}

/-- The registration takes the place of what a call of this name with this many arguments would
find. -/
def Replaces (registration : Registration) (name : String) (count : Nat) : Prop :=
  Environment.key registration.name = name ∧
    ∀ overload ∈ registration.overload?, overload.arity = count

/-- The function was registered for the name and this many arguments, and nothing behind it has
taken its place. -/
def IsLast (registrations : List Registration) (name : String) (count : Nat) (found : Overload) :
    Prop :=
  ∃ before registration behind, registrations = before ++ registration :: behind ∧
    registration.Replaces name count ∧ registration.overload? = some found ∧
    ∀ later ∈ behind, ¬ later.Replaces name count

theorem not_isLast_nil : ¬ IsLast [] name count found := by
  rintro ⟨before, registration, behind, whole, _⟩
  have length := congrArg List.length whole
  rw [List.length_append, List.length_cons] at length
  cases length

theorem isLast_cons :
    IsLast (registration :: registrations) name count found ↔
      IsLast registrations name count found ∨
        registration.Replaces name count ∧ registration.overload? = some found ∧
          ∀ later ∈ registrations, ¬ later.Replaces name count := by
  constructor
  · rintro ⟨before, last, behind, whole, replaces, function, kept⟩
    cases before with
    | nil =>
        obtain ⟨rfl, rfl⟩ := List.cons.inj whole
        exact .inr ⟨replaces, function, kept⟩
    | cons first before =>
        obtain ⟨rfl, rest⟩ := List.cons.inj whole
        exact .inl ⟨before, last, behind, rest, replaces, function, kept⟩
  · rintro (⟨before, last, behind, rfl, placed⟩ | placed)
    · exact ⟨registration :: before, last, behind, rfl, placed⟩
    · exact ⟨[], registration, registrations, rfl, placed⟩

end Registration

namespace Environment

variable {environment : Environment} {text name : String} {registration : Registration}
  {count : Nat} {found : Overload}

theorem overload_eq_ok_iff :
    Expr.overload environment name count = .ok found ↔
      ∃ overloads, environment.find? name = some (.function overloads) ∧
        overloads.find? (·.arity == count) = some found := by
  unfold Expr.overload
  constructor
  · intro success
    split at success
    · cases success
    · cases success
    · next overloads bound =>
        split at success
        · next listed =>
            cases success
            exact ⟨overloads, bound, listed⟩
        · cases success
  · rintro ⟨overloads, bound, listed⟩
    rw [bound]
    dsimp only
    rw [listed]

theorem overload_withOverload (overload : Overload) :
    Expr.overload (environment.withOverload text overload) name overload.arity =
      if key text = name then .ok overload
      else Expr.overload environment name overload.arity := by
  have bound := @find?_withOverload environment text name overload
  split
  · next same =>
      rw [if_pos same] at bound
      rw [Overload.withOverload_eq_place] at bound
      exact overload_eq_ok_iff.mpr ⟨_, bound, overload.find?_place _⟩
  · next other =>
      rw [if_neg other] at bound
      rw [Expr.overload, Expr.overload, bound]

theorem register_of_function (function : registration.overload? = some found) :
    environment.register registration = environment.withOverload registration.name found := by
  cases registration <;> cases function <;> rfl

theorem overload_register_of_replaces (replaces : registration.Replaces name count) :
    Expr.overload (environment.register registration) name count = .ok found ↔
      registration.overload? = some found := by
  obtain ⟨same, arity⟩ := replaces
  cases function : registration.overload? with
  | some overload =>
      rw [register_of_function function, ← arity overload function, overload_withOverload,
        if_pos same, Except.ok.injEq, Option.some.injEq]
  | none =>
      cases registration with
      | constant text value =>
          have bound : (environment.withConstant text value).find? name = some (.constant value) :=
            (find?_withConstant value).trans (if_pos same)
          rw [overload_eq_ok_iff, register, bound]
          simp
      | function text overload => cases function
      | unary text operation => cases function
      | binary text operation => cases function

theorem overload_register_of_not_replaces (kept : ¬ registration.Replaces name count) :
    Expr.overload (environment.register registration) name count = .ok found ↔
      Expr.overload environment name count = .ok found := by
  by_cases same : key registration.name = name
  · -- a function of another number of arguments, as a constant replaces everything
    obtain ⟨overload, function, other⟩ :
        ∃ overload, registration.overload? = some overload ∧ overload.arity ≠ count := by
      simpa [Registration.Replaces, same] using kept
    have bound := @find?_withOverload environment registration.name name overload
    rw [if_pos same] at bound
    rw [register_of_function function, overload_eq_ok_iff, overload_eq_ok_iff, bound,
      Overload.withOverload_eq_place]
    simp only [Option.some.injEq, Binding.function.injEq, exists_eq_left',
      Overload.find?_place_of_ne other]
    rcases environment.find? name with _ | ⟨_ | overloads⟩ <;> simp [Overload.ofBinding]
  · have bound : (environment.register registration).find? name = environment.find? name := by
      cases registration with
      | constant text value => exact (find?_withConstant value).trans (if_neg same)
      | function text overload => exact (find?_withOverload overload).trans (if_neg same)
      | unary text operation => exact (find?_withOverload (.unary operation)).trans (if_neg same)
      | binary text operation => exact (find?_withOverload (.binary operation)).trans (if_neg same)
    rw [overload_eq_ok_iff, overload_eq_ok_iff, bound]

/-- A call finds the function that was registered last for its name and number of arguments, or
what it would have found before if nothing has taken its place. -/
theorem overload_registerAll (environment : Environment) (registrations : List Registration) :
    Expr.overload (environment.registerAll registrations) name count = .ok found ↔
      Registration.IsLast registrations name count found ∨
        (∀ registration ∈ registrations, ¬ registration.Replaces name count) ∧
          Expr.overload environment name count = .ok found := by
  induction registrations generalizing environment with
  | nil => simp [registerAll, Registration.not_isLast_nil]
  | cons registration rest induction =>
      have step := induction (environment.register registration)
      rw [registerAll, List.foldl_cons, ← registerAll, step, Registration.isLast_cons,
        List.forall_mem_cons, or_assoc]
      by_cases replaces : registration.Replaces name count
      · rw [overload_register_of_replaces replaces]
        simp [replaces, and_comm]
      · rw [overload_register_of_not_replaces replaces]
        simp [replaces]

end Environment

/-! ## Errors of evaluations -/

theorem eq_of_ite_eq_error {α β : Type} {condition : Prop} [Decidable condition] {error other : β}
    {value : α} (refused : (if condition then .error error else .ok value : Except β α) =
      .error other) : condition ∧ other = error := by
  split at refused
  · next holds => exact ⟨holds, (Except.error.inj refused).symm⟩
  · cases refused

theorem Operator.apply_eq_error {operator : Operator} {left right : Float} {error : EvalError}
    (refused : operator.apply left right = .error error) :
    error = .divisionByZero ∨ error = .complexResult left right := by
  cases operator with
  | add => cases refused
  | subtract => cases refused
  | multiply => cases refused
  | divide =>
      obtain ⟨_, same⟩ := eq_of_ite_eq_error refused
      exact .inl same
  | remainder =>
      obtain ⟨_, same⟩ := eq_of_ite_eq_error refused
      exact .inl same
  | power =>
      obtain ⟨_, same⟩ := eq_of_ite_eq_error refused
      exact .inr same

namespace Expr

variable {environment : Environment} {trace : Trace} {tree : Expr} {name : String}

theorem exists_fails {error : EvalError}
    (failed : (evaluateTraced environment trace tree).1 = .error error) :
    ∃ form carried, Fails environment form error carried := by
  have explained := @outcome_explained environment tree
  rw [evaluateTraced_eq] at failed
  rcases run : tree.outcome environment with ⟨outcome, steps⟩
  rw [run] at failed explained
  cases failed
  obtain ⟨form, _, _, carried, _, fails, _⟩ := explained
  exact ⟨form, carried, fails⟩

/-- The numbers of arguments that are expected are those of the overloads, in their order, and the
number found is none of them. -/
theorem expected_of_arityMismatch (ordered : environment.Ordered) {expected : List Nat} {count : Nat}
    (failed : (evaluateTraced environment trace tree).1 =
      .error (.arityMismatch name expected count)) :
    expected ≠ [] ∧ expected.Pairwise (· < ·) ∧ count ∉ expected := by
  obtain ⟨form, carried, fails⟩ := exists_fails failed
  cases fails with
  | operator _ _ refused => rcases Operator.apply_eq_error refused with same | same <;> cases same
  | @refused function arguments _ refused =>
      unfold overload at refused
      split at refused
      · cases refused
      · cases refused
      · next overloads bound =>
          split at refused
          · cases refused
          · next missing =>
              cases refused
              obtain ⟨nonempty, increasing⟩ := ordered _ _ bound
              refine ⟨?_, increasing, ?_⟩
              · exact fun empty => nonempty (List.map_eq_nil_iff.mp empty)
              · simpa using missing

/-- Where a function is said to refuse its arguments, it has been called with as many as it takes,
and has refused them itself. -/
theorem refuses_of_domain {refusal : Refusal}
    (failed : (evaluateTraced environment trace tree).1 = .error (.domain name refusal)) :
    ∃ found, overload environment name found.arity = .ok found ∧ found.Refuses refusal := by
  obtain ⟨form, carried, fails⟩ := exists_fails failed
  cases fails with
  | operator _ _ refused => rcases Operator.apply_eq_error refused with same | same <;> cases same
  | refused refused =>
      unfold overload at refused
      split at refused
      · cases refused
      · cases refused
      · split at refused <;> cases refused
  | @domain function arguments callee values _ found yields refused =>
      obtain ⟨overloads, _, listed⟩ := Environment.overload_eq_ok_iff.mp found
      have arity : callee.arity = arguments.length := by
        simpa using List.find?_some listed
      have count : values.length = callee.arity := by
        rw [arity, ← yields.length_eq]
      rw [← arity] at found
      exact ⟨callee, found, Overload.refuses_of_apply count refused⟩

end Expr

/-! ## Built-in names -/

/-- A function that never refuses its arguments for their number. -/
def Overload.TakesItsArguments (overload : Overload) : Prop :=
  ∀ count, ¬ overload.Refuses (.argumentCount count)

namespace Overload

theorem takesItsArguments_unary {operation : Float → Except Refusal Float}
    (takes : ∀ argument count, operation argument ≠ .error (.argumentCount count)) :
    TakesItsArguments (.unary operation) := by
  intro count refuses
  cases refuses with
  | unary refused => exact takes _ count refused

theorem takesItsArguments_binary {operation : Float → Float → Except Refusal Float}
    (takes : ∀ first second count, operation first second ≠ .error (.argumentCount count)) :
    TakesItsArguments (.binary operation) := by
  intro count refuses
  cases refuses with
  | binary refused => exact takes _ _ count refused

end Overload

namespace Builtin

def registrations : List Registration :=
  [.constant "pi" pi,
   .constant "e" euler,
   .unary "sqrt" squareRoot,
   .unary "sin" sine,
   .unary "cos" cosine,
   .unary "tan" tangent,
   .unary "asin" arcsine,
   .unary "acos" arccosine,
   .unary "atan" arctangent,
   .unary "log" decimalLogarithm,
   .binary "log" logarithm,
   .unary "ln" naturalLogarithm,
   .unary "exp" exponential,
   .unary "abs" absolute,
   .unary "floor" floor,
   .unary "ceil" ceiling,
   .unary "round" round,
   .unary "factorial" factorial,
   .unary "fact" factorial]

theorem environment_eq_registerAll : environment = Environment.empty.registerAll registrations :=
  rfl

/-- A refusal that does not begin like the one for the number of arguments is another one. -/
theorem error_ne {refusal : Refusal} (start : refusal.message.toList.head? ≠ some 'e')
    (count : Nat) : (.error refusal : Except Refusal Float) ≠ .error (.argumentCount count) := by
  intro same
  apply start
  rw [Except.error.inj same, Refusal.argumentCount, String.toList_append, String.toList_append]
  rfl

theorem ite_ne {α : Type} {condition : Prop} [Decidable condition] {first second other : α}
    (firstNe : first ≠ other) (secondNe : second ≠ other) :
    (if condition then first else second) ≠ other := by
  split
  · exact firstNe
  · exact secondNe

/-- The built-in functions refuse their arguments only for what they are. -/
theorem registrations_takeTheirArguments :
    ∀ registration ∈ registrations, ∀ overload ∈ registration.overload?,
      overload.TakesItsArguments := by
  have unary : ∀ {operation : Float → Except Refusal Float},
      (∀ argument count, operation argument ≠ .error (.argumentCount count)) →
        ∀ overload ∈ some (Overload.unary operation), overload.TakesItsArguments := by
    rintro operation takes overload ⟨⟩
    exact Overload.takesItsArguments_unary takes
  have binary : ∀ {operation : Float → Float → Except Refusal Float},
      (∀ first second count, operation first second ≠ .error (.argumentCount count)) →
        ∀ overload ∈ some (Overload.binary operation), overload.TakesItsArguments := by
    rintro operation takes overload ⟨⟩
    exact Overload.takesItsArguments_binary takes
  have total : ∀ {operation : Float → Float}, ∀ overload ∈ some (Overload.unary fun argument =>
      .ok (operation argument)), overload.TakesItsArguments := unary nofun
  simp only [registrations, List.forall_mem_cons, Registration.overload?]
  exact ⟨nofun, nofun,
    @unary squareRoot fun _ count => ite_ne (error_ne (by decide) count) nofun,
    total, total, total,
    @unary arcsine fun _ count => ite_ne nofun (error_ne (by decide) count),
    @unary arccosine fun _ count => ite_ne nofun (error_ne (by decide) count),
    total,
    @unary decimalLogarithm fun _ count => ite_ne (error_ne (by decide) count) nofun,
    @binary logarithm fun _ _ count =>
      ite_ne (error_ne (by decide) count) (ite_ne (error_ne (by decide) count) nofun),
    @unary naturalLogarithm fun _ count => ite_ne (error_ne (by decide) count) nofun,
    total, total, total, total, total,
    @unary factorial fun _ count =>
      ite_ne (error_ne (by decide) count) (ite_ne nofun (error_ne (by decide) count)),
    @unary factorial fun _ count =>
      ite_ne (error_ne (by decide) count) (ite_ne nofun (error_ne (by decide) count)),
    nofun⟩

end Builtin

namespace Environment

/-- After every run of registrations each name is bound to what its meaning shows: the last constant
if no function follows it, and otherwise for each number of arguments the function that was
registered last.  The overloads are in order, and there are one or two of them.

So a call finds the function that was registered last for its name and number of arguments.  If
there is none, the numbers that are expected are in order, and the number found is none of them.  A
function that refuses has been called with as many arguments as it takes, so its number of
arguments is never the reason.

The built-in environment is one of these, and its functions refuse their arguments only for what
they are. -/
theorem registerAll_lastWins (registrations : List Registration) :
    let environment := empty.registerAll registrations
    (∀ name, environment.find? name = (Meaning.after registrations name).binding?) ∧
      (∀ name overloads, environment.find? name = some (.function overloads) →
        Overload.Ordered overloads ∧ overloads.length ≤ 2) ∧
      (∀ name count found, Expr.overload environment name count = .ok found ↔
        Registration.IsLast registrations name count found) ∧
      (∀ trace tree name expected count,
        (Expr.evaluateTraced environment trace tree).1 =
            .error (.arityMismatch name expected count) →
          expected ≠ [] ∧ expected.Pairwise (· < ·) ∧ count ∉ expected) ∧
      (∀ trace tree name refusal,
        (Expr.evaluateTraced environment trace tree).1 = .error (.domain name refusal) →
          ∃ found, Registration.IsLast registrations name found.arity found ∧
            found.Refuses refusal) ∧
      ((∀ registration ∈ registrations, ∀ overload ∈ registration.overload?,
          overload.TakesItsArguments) →
        ∀ trace tree name count, (Expr.evaluateTraced environment trace tree).1 ≠
          .error (.domain name (.argumentCount count))) ∧
      (∀ later, Builtin.environment.registerAll later =
        empty.registerAll (Builtin.registrations ++ later)) ∧
      ∀ registration ∈ Builtin.registrations, ∀ overload ∈ registration.overload?,
        overload.TakesItsArguments := by
  intro environment
  have ordered : Ordered environment := registerAll_ordered registrations
  have calls : ∀ name count found, Expr.overload environment name count = .ok found ↔
      Registration.IsLast registrations name count found := by
    intro name count found
    have unbound : Expr.overload empty name count ≠ .ok found := nofun
    rw [overload_registerAll, or_iff_left (fun both => unbound both.2)]
  have refused : ∀ trace tree name refusal,
      (Expr.evaluateTraced environment trace tree).1 = .error (.domain name refusal) →
        ∃ found, Registration.IsLast registrations name found.arity found ∧
          found.Refuses refusal := by
    intro trace tree name refusal failed
    obtain ⟨found, call, refuses⟩ := Expr.refuses_of_domain failed
    exact ⟨found, (calls name found.arity found).mp call, refuses⟩
  refine ⟨find?_registerAll registrations, ?_, calls, ?_, refused, ?_, ?_,
    Builtin.registrations_takeTheirArguments⟩
  · intro name overloads bound
    exact ⟨ordered name overloads bound, (ordered name overloads bound).length_le⟩
  · intro trace tree name expected count failed
    exact Expr.expected_of_arityMismatch ordered failed
  · intro takes trace tree name count failed
    obtain ⟨found, ⟨_, registration, _, rfl, _, function, _⟩, refuses⟩ := refused _ _ _ _ failed
    exact takes registration (by simp) found function count refuses
  · intro later
    rw [registerAll_append, ← Builtin.environment_eq_registerAll]

end Environment

end Reckoner
