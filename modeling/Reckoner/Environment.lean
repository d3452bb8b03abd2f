import Reckoner.Text.Casing

/-!
# Names and what they stand for

An environment binds names to constants and functions.  A function is a list of overloads, at
most one for each number of arguments.  Names are kept in the lower case of their whole text; a
look-up takes the name as it is.

Binding a constant replaces everything under its name.  Binding an overload replaces a constant,
or the overload of the same number of arguments.
-/

namespace Reckoner

/-- Why a function has no value for its arguments, in its own words. -/
structure Refusal where
  message : String
deriving Repr, DecidableEq

def Refusal.argumentCount (expected : Nat) : Refusal :=
  ⟨"expected " ++ toString expected ++ " argument(s)"⟩

inductive Overload where
  | unary (function : Float → Except Refusal Float)
  | binary (function : Float → Float → Except Refusal Float)

namespace Overload

def arity : Overload → Nat
  | .unary _ => 1
  | .binary _ => 2

def apply : Overload → List Float → Except Refusal Float
  | .unary function, [argument] => function argument
  | .binary function, [first, second] => function first second
  | overload, _ => .error (.argumentCount overload.arity)

/-- Puts an overload in front of those that take as many arguments or more. -/
def insert (overload : Overload) : List Overload → List Overload
  | [] => [overload]
  | first :: rest =>
    if overload.arity ≤ first.arity then overload :: first :: rest
    else first :: insert overload rest

def sort : List Overload → List Overload
  | [] => []
  | first :: rest => insert first (sort rest)

/-- Adds an overload in place of one that takes as many arguments. -/
def place (overload : Overload) (overloads : List Overload) : List Overload :=
  sort (overloads.filter (·.arity != overload.arity) ++ [overload])

end Overload

inductive Binding where
  | constant (value : Float)
  /-- The overloads of a function, fewest arguments first. -/
  | function (overloads : List Overload)

namespace Binding

def withOverload (overload : Overload) : Option Binding → Binding
  | none => .function (overload.place [])
  | some (.function overloads) => .function (overload.place overloads)
  | some (.constant _) => .function [overload]

end Binding

/-- The names visible to an expression, each bound once. -/
structure Environment where
  bindings : List (String × Binding)

namespace Environment

/-- The form in which a name is kept. -/
def key (name : String) : String :=
  String.ofList (Text.lowerText name.toList)

def empty : Environment :=
  ⟨[]⟩

/-- What a name stands for; the name is looked up as it is. -/
def find? (environment : Environment) (name : String) : Option Binding :=
  environment.bindings.lookup name

/-- Binds a key, in place of any earlier binding. -/
def insert (environment : Environment) (key : String) (binding : Binding) : Environment :=
  ⟨(key, binding) :: environment.bindings.filter (fun entry => entry.1 != key)⟩

theorem find?_insert_self (environment : Environment) (key : String) (binding : Binding) :
    (environment.insert key binding).find? key = some binding := by
  simp [find?, insert]

theorem find?_insert_of_ne (environment : Environment) {key other : String}
    (binding : Binding) (different : other ≠ key) :
    (environment.insert key binding).find? other = environment.find? other := by
  have lookup_filter : ∀ bindings : List (String × Binding),
      (bindings.filter fun entry => entry.1 != key).lookup other = bindings.lookup other := by
    intro bindings
    induction bindings with
    | nil => rfl
    | cons entry rest ih =>
      obtain ⟨name, bound⟩ := entry
      by_cases same : name = key
      · have unequal : (other == name) = false := by simp [same, different]
        have dropped : (name != key) = false := by simp [same]
        simp [List.lookup_cons, unequal, dropped, ih]
      · have kept : (name != key) = true := by simp [same]
        simp [List.lookup_cons, kept, ih]
  have unequal : (other == key) = false := by simp [different]
  simp [find?, insert, List.lookup_cons, unequal, lookup_filter]

def withConstant (environment : Environment) (name : String) (value : Float) : Environment :=
  environment.insert (key name) (.constant value)

def withOverload (environment : Environment) (name : String) (overload : Overload) :
    Environment :=
  environment.insert (key name) (.withOverload overload (environment.find? (key name)))

def withUnary (environment : Environment) (name : String)
    (function : Float → Except Refusal Float) : Environment :=
  environment.withOverload name (.unary function)

def withBinary (environment : Environment) (name : String)
    (function : Float → Float → Except Refusal Float) : Environment :=
  environment.withOverload name (.binary function)

/-- Whether a name is bound, in any letter case. -/
def contains (environment : Environment) (name : String) : Bool :=
  (environment.find? (key name)).isSome

def names (environment : Environment) : List String :=
  (environment.bindings.map Prod.fst).mergeSort (fun left right => !decide (right < left))

end Environment

end Reckoner
