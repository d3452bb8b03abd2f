import Reckoner.Environment

/-!
# The last registration wins

An environment is made by registrations of constants and functions.  `Meaning` says what they come
to under one name: a constant replaces everything there, and a function replaces a constant or the
function that takes as many arguments.  After every run of registrations the environment binds each
name as its meaning says (`Environment.find?_registerAll`).

A function is placed among the overloads of its name: the one that takes as many arguments is taken
out, and the others are sorted with it.  So the overloads are in order after every registration, and
there is at least one of them (`Environment.registerAll_ordered`).
-/

namespace Reckoner

/-- A constant or a function under a name. -/
inductive Registration where
  | constant (name : String) (value : Float)
  | function (name : String) (overload : Overload)
  | unary (name : String) (function : Float → Except Refusal Float)
  | binary (name : String) (function : Float → Float → Except Refusal Float)

namespace Registration

def name : Registration → String
  | .constant name _ => name
  | .function name _ => name
  | .unary name _ => name
  | .binary name _ => name

/-- The function that is registered, unless it is a constant. -/
def overload? : Registration → Option Overload
  | .constant _ _ => none
  | .function _ overload => some overload
  | .unary _ operation => some (.unary operation)
  | .binary _ operation => some (.binary operation)

end Registration

namespace Environment

def register (environment : Environment) : Registration → Environment
  | .constant name value => environment.withConstant name value
  | .function name overload => environment.withOverload name overload
  | .unary name function => environment.withUnary name function
  | .binary name function => environment.withBinary name function

def registerAll (environment : Environment) (registrations : List Registration) : Environment :=
  registrations.foldl register environment

end Environment

/-- What the registrations of one name come to: a constant, or a function for one argument and one
for two, each of which may be missing. -/
inductive Meaning where
  | constant (value : Float)
  | functions (unary : Option (Float → Except Refusal Float))
      (binary : Option (Float → Float → Except Refusal Float))

namespace Meaning

def unary? : Meaning → Option (Float → Except Refusal Float)
  | .constant _ => none
  | .functions unary _ => unary

def binary? : Meaning → Option (Float → Float → Except Refusal Float)
  | .constant _ => none
  | .functions _ binary => binary

def withOverload (meaning : Meaning) : Overload → Meaning
  | .unary function => .functions (some function) meaning.binary?
  | .binary function => .functions meaning.unary? (some function)

def register (meaning : Meaning) (registration : Registration) : Meaning :=
  match registration with
  | .constant _ value => .constant value
  | .function _ overload => meaning.withOverload overload
  | .unary _ function => meaning.withOverload (.unary function)
  | .binary _ function => meaning.withOverload (.binary function)

/-- What a registration makes of the meaning of a name; those of other names do not touch it. -/
def next (name : String) (meaning : Meaning) (registration : Registration) : Meaning :=
  if Environment.key registration.name = name then meaning.register registration else meaning

/-- The meaning of a name after some registrations. -/
def after (registrations : List Registration) (name : String) : Meaning :=
  registrations.foldl (next name) (.functions none none)

/-- The binding that shows a meaning; a name without constant and functions has none. -/
def binding? : Meaning → Option Binding
  | .constant value => some (.constant value)
  | .functions none none => none
  | .functions (some unary) none => some (.function [.unary unary])
  | .functions none (some binary) => some (.function [.binary binary])
  | .functions (some unary) (some binary) => some (.function [.unary unary, .binary binary])

theorem binding?_withOverload (meaning : Meaning) (overload : Overload) :
    (meaning.withOverload overload).binding? =
      some (.withOverload overload meaning.binding?) := by
  rcases meaning with value | ⟨_ | unary, _ | binary⟩ <;> cases overload <;> rfl

end Meaning

namespace Overload

variable {overloads : List Overload}

theorem arity_eq (overload : Overload) : overload.arity = 1 ∨ overload.arity = 2 := by
  cases overload with
  | unary _ => exact .inl rfl
  | binary _ => exact .inr rfl

/-- There is an overload, and each takes more arguments than the one in front of it. -/
structure Ordered (overloads : List Overload) : Prop where
  nonempty : overloads ≠ []
  increasing : (overloads.map arity).Pairwise (· < ·)

/-- There is room for one overload of one argument and one of two. -/
theorem Ordered.length_le (ordered : Ordered overloads) : overloads.length ≤ 2 := by
  match overloads, ordered.increasing with
  | [], _ => exact Nat.zero_le 2
  | [_], _ => exact Nat.le_succ 1
  | [_, _], _ => exact Nat.le_refl 2
  | first :: second :: third :: _, increasing =>
      have increase : first.arity < second.arity ∧ second.arity < third.arity := by
        simp only [List.map_cons, List.pairwise_cons, List.mem_cons, forall_eq_or_imp] at increasing
        exact ⟨increasing.1.1, increasing.2.1.1⟩
      have least := first.arity_eq
      have greatest := third.arity_eq
      omega

/-! ### Sorting by the number of arguments -/

theorem insert_perm (overload : Overload) (overloads : List Overload) :
    (overload.insert overloads).Perm (overload :: overloads) := by
  induction overloads with
  | nil => exact .refl _
  | cons first rest induction =>
      rw [insert]
      split
      · exact .refl _
      · exact (induction.cons first).trans (.swap overload first rest)

theorem sort_perm (overloads : List Overload) : (sort overloads).Perm overloads := by
  induction overloads with
  | nil => exact .refl _
  | cons first rest induction => exact (first.insert_perm _).trans (induction.cons first)

theorem insert_sorted (overload : Overload)
    (sorted : overloads.Pairwise fun left right => left.arity ≤ right.arity) :
    (overload.insert overloads).Pairwise fun left right => left.arity ≤ right.arity := by
  induction overloads with
  | nil => exact List.pairwise_singleton _ _
  | cons first rest induction =>
      obtain ⟨least, others⟩ := List.pairwise_cons.mp sorted
      rw [insert]
      split
      · next before =>
          refine List.pairwise_cons.mpr ⟨List.forall_mem_cons.mpr ⟨before, ?_⟩, sorted⟩
          exact fun other member => Nat.le_trans before (least other member)
      · next behind =>
          refine List.pairwise_cons.mpr ⟨fun other member => ?_, induction others⟩
          rcases List.mem_cons.mp ((overload.insert_perm rest).mem_iff.mp member) with rfl | later
          · exact Nat.le_of_not_le behind
          · exact least other later

theorem sort_sorted (overloads : List Overload) :
    (sort overloads).Pairwise fun left right => left.arity ≤ right.arity := by
  induction overloads with
  | nil => exact .nil
  | cons first rest induction => exact first.insert_sorted induction

theorem find?_insert (overload : Overload) (overloads : List Overload) (count : Nat) :
    (overload.insert overloads).find? (·.arity == count) =
      (overload :: overloads).find? (·.arity == count) := by
  induction overloads with
  | nil => rfl
  | cons first rest induction =>
      rw [insert]
      split
      · rfl
      · next behind =>
          rw [List.find?_cons, induction, List.find?_cons, List.find?_cons, List.find?_cons]
          -- the two are looked at in another order, but only one of them can be found
          by_cases found : first.arity = count
          · have other : (overload.arity == count) = false := beq_false_of_ne (by omega)
            simp only [found, other, beq_self_eq_true]
          · simp only [beq_false_of_ne found]

/-- Of the overloads that take as many arguments the first stays the first. -/
theorem find?_sort (overloads : List Overload) (count : Nat) :
    (sort overloads).find? (·.arity == count) = overloads.find? (·.arity == count) := by
  induction overloads with
  | nil => rfl
  | cons first rest induction =>
      rw [sort, find?_insert, List.find?_cons, List.find?_cons, induction]

/-! ### Placing an overload -/

theorem find?_place (overload : Overload) (overloads : List Overload) :
    (overload.place overloads).find? (·.arity == overload.arity) = some overload := by
  have none : (overloads.filter (·.arity != overload.arity)).find? (·.arity == overload.arity) =
      none := by
    simp
  rw [place, find?_sort, List.find?_append, none, List.find?_cons, beq_self_eq_true]
  rfl

/-- The overloads of other numbers of arguments are kept. -/
theorem find?_place_of_ne {overload : Overload} {count : Nat} (other : overload.arity ≠ count)
    (overloads : List Overload) :
    (overload.place overloads).find? (·.arity == count) =
      overloads.find? (·.arity == count) := by
  have skipped : [overload].find? (·.arity == count) = none := by simpa using other
  rw [place, find?_sort, List.find?_append, skipped, Option.or_none, List.find?_filter]
  congr 1
  funext first
  by_cases found : first.arity = count
  · simp [found, Ne.symm other]
  · simp [found]

/-- The overloads under a name; under a constant there are none. -/
def ofBinding : Option Binding → List Overload
  | some (.function overloads) => overloads
  | _ => []

theorem withOverload_eq_place (overload : Overload) (binding : Option Binding) :
    Binding.withOverload overload binding = .function (overload.place (ofBinding binding)) := by
  rcases binding with _ | ⟨_ | _⟩
  · rfl
  · rfl
  · rfl

/-- An overload that is placed has a number of arguments of its own. -/
theorem place_ordered (overload : Overload)
    (increasing : (overloads.map arity).Pairwise (· < ·)) : Ordered (overload.place overloads) := by
  have others : (overloads.filter (·.arity != overload.arity) ++ [overload]).Pairwise
      fun left right => left.arity ≠ right.arity := by
    refine List.pairwise_append.mpr ⟨?_, List.pairwise_singleton _ _, ?_⟩
    · exact ((List.pairwise_map.mp increasing).imp Nat.ne_of_lt).filter _
    · intro other member last same
      rw [List.mem_singleton.mp same]
      simpa using (List.mem_filter.mp member).2
  have distinct := others.perm (sort_perm _).symm Ne.symm
  constructor
  · intro empty
    have found := overload.find?_place overloads
    rw [empty] at found
    cases found
  · refine List.pairwise_map.mpr (((sort_sorted _).and distinct).imp fun both => ?_)
    exact Nat.lt_of_le_of_ne both.1 both.2

end Overload

namespace Environment

variable {environment : Environment} {text name : String} {registration : Registration}
  {count : Nat}

theorem find?_withConstant (value : Float) :
    (environment.withConstant text value).find? name =
      if key text = name then some (.constant value) else environment.find? name := by
  split
  · next same =>
      rw [← same]
      exact find?_insert_self environment (key text) _
  · next other => exact find?_insert_of_ne environment _ (Ne.symm other)

theorem find?_withOverload (overload : Overload) :
    (environment.withOverload text overload).find? name =
      if key text = name then some (.withOverload overload (environment.find? name))
      else environment.find? name := by
  split
  · next same =>
      rw [← same]
      exact find?_insert_self environment (key text) _
  · next other => exact find?_insert_of_ne environment _ (Ne.symm other)

/-- A registration does to the bindings what it does to the meanings. -/
theorem find?_register {meaning : Meaning} (shown : environment.find? name = meaning.binding?) :
    (environment.register registration).find? name =
      (Meaning.next name meaning registration).binding? := by
  have overload : ∀ (text : String) (overload : Overload),
      (environment.withOverload text overload).find? name =
        (if key text = name then meaning.withOverload overload else meaning).binding? := by
    intro text overload
    rw [find?_withOverload, shown]
    split
    · exact (meaning.binding?_withOverload overload).symm
    · rfl
  cases registration with
  | constant text value =>
      change (environment.withConstant text value).find? name =
        (if key text = name then .constant value else meaning).binding?
      rw [find?_withConstant, shown]
      split
      · rfl
      · rfl
  | function text found => exact overload text found
  | unary text operation => exact overload text (.unary operation)
  | binary text operation => exact overload text (.binary operation)

/-- After every run of registrations each name is bound to what its meaning shows. -/
theorem find?_registerAll (registrations : List Registration) (name : String) :
    (empty.registerAll registrations).find? name =
      (Meaning.after registrations name).binding? := by
  have run : ∀ (environment : Environment) (meaning : Meaning),
      environment.find? name = meaning.binding? →
        (environment.registerAll registrations).find? name =
          (registrations.foldl (Meaning.next name) meaning).binding? := by
    induction registrations with
    | nil => exact fun _ _ shown => shown
    | cons registration rest induction =>
        exact fun environment meaning shown => induction _ _ (find?_register shown)
  exact run empty (.functions none none) rfl

/-- The overloads of every function are in order. -/
def Ordered (environment : Environment) : Prop :=
  ∀ name overloads, environment.find? name = some (.function overloads) →
    Overload.Ordered overloads

theorem Ordered.ofBinding (ordered : Ordered environment) (name : String) :
    ((Overload.ofBinding (environment.find? name)).map Overload.arity).Pairwise (· < ·) := by
  rcases bound : environment.find? name with _ | ⟨_ | overloads⟩
  · exact .nil
  · exact .nil
  · exact (ordered name overloads bound).increasing

theorem Ordered.withOverload (ordered : Ordered environment) (text : String)
    (overload : Overload) : Ordered (environment.withOverload text overload) := by
  intro name overloads bound
  rw [find?_withOverload] at bound
  split at bound
  · rw [Overload.withOverload_eq_place] at bound
    cases bound
    exact overload.place_ordered (ordered.ofBinding name)
  · exact ordered name overloads bound

theorem Ordered.register (ordered : Ordered environment) (registration : Registration) :
    Ordered (environment.register registration) := by
  cases registration with
  | constant text value =>
      intro name overloads bound
      rw [Environment.register, find?_withConstant] at bound
      split at bound
      · cases bound
      · exact ordered name overloads bound
  | function text overload => exact ordered.withOverload text overload
  | unary text operation => exact ordered.withOverload text (.unary operation)
  | binary text operation => exact ordered.withOverload text (.binary operation)

theorem Ordered.registerAll (ordered : Ordered environment) (registrations : List Registration) :
    Ordered (environment.registerAll registrations) := by
  induction registrations generalizing environment with
  | nil => exact ordered
  | cons registration rest induction => exact induction (ordered.register registration)

theorem registerAll_ordered (registrations : List Registration) :
    Ordered (empty.registerAll registrations) := by
  have atStart : Ordered empty := nofun
  exact atStart.registerAll registrations

theorem registerAll_append (registrations later : List Registration) :
    environment.registerAll (registrations ++ later) =
      (environment.registerAll registrations).registerAll later :=
  List.foldl_append

end Environment

end Reckoner
