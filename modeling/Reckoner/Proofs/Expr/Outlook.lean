import Reckoner.Proofs.Expr.Grammar

/-!
# What may come next

What the tokens of a text say about those that may follow is an `Outlook`: whether an operand or an
operator is wanted, and which parentheses are open.  `Outlook.after` says what the next token makes
of it, or that no expression goes on with that token.

Every derivation is followed to its end, with the parentheses open that were open before, and from
every outlook some tokens lead to the end of an expression.
-/

namespace Reckoner

/-- Which kind of token is wanted. -/
inductive Phase where
  | operand
  /-- The first argument of a call, or the end of the call. -/
  | argument
  /-- Something behind an operand, which may be a name. -/
  | operator (named : Bool)
deriving DecidableEq

structure Outlook where
  phase : Phase
  /-- For each open parenthesis, the innermost first, whether it is the one of a call. -/
  calls : List Bool
deriving DecidableEq

namespace Outlook

/-- In front of a whole expression. -/
def initial : Outlook where
  phase := .operand
  calls := []

/-- What a token makes of the outlook where an operand is wanted. -/
def beforeOperand (calls : List Bool) : TokenKind → Option Outlook
  | .number _ => some ⟨.operator false, calls⟩
  | .identifier _ => some ⟨.operator true, calls⟩
  | .leftParenthesis => some ⟨.operand, false :: calls⟩
  | .operator symbol => if symbol = '+' ∨ symbol = '-' then some ⟨.operand, calls⟩ else none
  | _ => none

/-- The innermost parenthesis is closed. -/
def close : List Bool → Option Outlook
  | [] => none
  | _ :: calls => some ⟨.operator false, calls⟩

/-- What a token makes of the outlook behind an operand. -/
def behindOperand (named : Bool) (calls : List Bool) : TokenKind → Option Outlook
  | .operator symbol => if Operator.isSymbol symbol then some ⟨.operand, calls⟩ else none
  | .leftParenthesis => if named then some ⟨.argument, true :: calls⟩ else none
  | .rightParenthesis => close calls
  | .comma => if calls.head? = some true then some ⟨.operand, calls⟩ else none
  | _ => none

/-- The outlook behind one more token, if there is an expression that goes on with it. -/
def after (outlook : Outlook) (kind : TokenKind) : Option Outlook :=
  match outlook.phase with
  | .operand => beforeOperand outlook.calls kind
  | .argument =>
    if kind = .rightParenthesis then close outlook.calls else beforeOperand outlook.calls kind
  | .operator named => behindOperand named outlook.calls kind

def follow (outlook : Outlook) (kinds : List TokenKind) : Option Outlook :=
  kinds.foldlM after outlook

/-- An expression can end here. -/
def Complete (outlook : Outlook) : Prop :=
  ∃ named, outlook = ⟨.operator named, []⟩

/-- No expression goes on with a token of this kind, or ends if it is the end. -/
def Refuses (outlook : Outlook) (kind : TokenKind) : Prop :=
  outlook.after kind = none ∧ (kind = .finish → ¬ outlook.Complete)

variable {outlook middle : Outlook} {kinds later : List TokenKind} {calls : List Bool}

@[simp] theorem follow_nil : outlook.follow [] = some outlook :=
  rfl

theorem follow_append (first : outlook.follow kinds = some middle) :
    outlook.follow (kinds ++ later) = middle.follow later := by
  simp only [follow] at first ⊢
  simp [List.foldlM_append, first]

theorem follow_cons {kind : TokenKind} (first : outlook.after kind = some middle) :
    outlook.follow (kind :: kinds) = middle.follow kinds := by
  simp [follow, first]

theorem follow_cons_none {kind : TokenKind} (refused : outlook.after kind = none) :
    outlook.follow (kind :: kinds) = none := by
  simp [follow, refused]

theorem exists_of_follow_cons {kind : TokenKind} {reached : Outlook}
    (run : outlook.follow (kind :: kinds) = some reached) :
    ∃ middle, outlook.after kind = some middle ∧ middle.follow kinds = some reached := by
  cases taken : outlook.after kind with
  | none =>
      rw [follow_cons_none taken] at run
      cases run
  | some middle => exact ⟨middle, rfl, by rwa [follow_cons taken] at run⟩

theorem exists_of_follow_append {reached : Outlook}
    (run : outlook.follow (kinds ++ later) = some reached) :
    ∃ middle, outlook.follow kinds = some middle ∧ middle.follow later = some reached := by
  cases first : outlook.follow kinds with
  | none => simp_all [follow, List.foldlM_append]
  | some middle => exact ⟨middle, rfl, by rwa [follow_append first] at run⟩

@[simp] theorem after_operator {named : Bool} {operator : Operator} :
    after ⟨.operator named, calls⟩ (.operator operator.symbol) = some ⟨.operand, calls⟩ :=
  if_pos (congrArg Option.isSome (Operator.ofSymbol?_symbol operator))

@[simp] theorem after_rightParenthesis {named call : Bool} :
    after ⟨.operator named, call :: calls⟩ .rightParenthesis = some ⟨.operator false, calls⟩ :=
  rfl

/-- The first argument of a call starts as every operand does. -/
theorem follow_argument {kind : TokenKind} (other : kind ≠ .rightParenthesis) :
    follow ⟨.argument, calls⟩ (kind :: kinds) = follow ⟨.operand, calls⟩ (kind :: kinds) := by
  have same : after ⟨.argument, calls⟩ kind = after ⟨.operand, calls⟩ kind := if_neg other
  simp only [follow, List.foldlM_cons, same]

/-- How many parentheses are open behind a token; none is closed that is not open. -/
def Nests (kind : TokenKind) (before behind : Nat) : Prop :=
  match kind with
  | .leftParenthesis => behind = before + 1
  | .rightParenthesis => before = behind + 1
  | _ => behind = before

section Nests

variable {kind : TokenKind} {reached : Outlook}

theorem nests_of_close (closed : close calls = some reached) :
    Nests .rightParenthesis calls.length reached.calls.length := by
  cases calls with
  | nil => cases closed
  | cons call calls =>
      cases closed
      rfl

theorem nests_of_beforeOperand (taken : beforeOperand calls kind = some reached) :
    Nests kind calls.length reached.calls.length := by
  cases kind with
  | number | identifier | leftParenthesis =>
      cases taken
      rfl
  | operator symbol =>
      obtain ⟨_, opened⟩ := Option.ite_none_right_eq_some.mp taken
      cases opened
      rfl
  | rightParenthesis | comma | finish => cases taken

theorem nests_of_behindOperand {named : Bool}
    (taken : behindOperand named calls kind = some reached) :
    Nests kind calls.length reached.calls.length := by
  cases kind with
  | number | identifier | finish => cases taken
  | rightParenthesis => exact nests_of_close taken
  | operator | leftParenthesis | comma =>
      obtain ⟨_, opened⟩ := Option.ite_none_right_eq_some.mp taken
      cases opened
      rfl

theorem nests_of_after (taken : outlook.after kind = some reached) :
    Nests kind outlook.calls.length reached.calls.length := by
  obtain ⟨phase, calls⟩ := outlook
  cases phase with
  | operand => exact nests_of_beforeOperand taken
  | operator named => exact nests_of_behindOperand taken
  | argument =>
      by_cases closing : kind = .rightParenthesis
      · subst closing
        exact nests_of_close taken
      · exact nests_of_beforeOperand ((if_neg closing).symm.trans taken)

end Nests

/-- From every outlook an expression can be brought to its end. -/
theorem exists_completion (outlook : Outlook) :
    ∃ kinds ending, outlook.follow kinds = some ending ∧ ending.Complete ∧
      ∀ kind ∈ kinds, kind ≠ .finish := by
  have closing : ∀ named calls, ∃ kinds ending,
      follow ⟨.operator named, calls⟩ kinds = some ending ∧ ending.Complete ∧
        ∀ kind ∈ kinds, kind ≠ .finish := by
    intro named calls
    induction calls generalizing named with
    | nil => exact ⟨[], _, rfl, ⟨named, rfl⟩, by simp⟩
    | cons call calls induction =>
        obtain ⟨kinds, ending, run, complete, inside⟩ := induction false
        refine ⟨.rightParenthesis :: kinds, ending, ?_, complete, ?_⟩
        · rw [follow_cons after_rightParenthesis, run]
        · simpa using inside
  obtain ⟨phase, calls⟩ := outlook
  have operand : ∀ phase, after ⟨phase, calls⟩ (.number 0) = some ⟨.operator false, calls⟩ →
      ∃ kinds ending, follow ⟨phase, calls⟩ kinds = some ending ∧ ending.Complete ∧
        ∀ kind ∈ kinds, kind ≠ .finish := by
    intro phase number
    obtain ⟨kinds, ending, run, complete, inside⟩ := closing false calls
    refine ⟨.number 0 :: kinds, ending, ?_, complete, ?_⟩
    · rw [follow_cons number, run]
    · simpa using inside
  cases phase with
  | operand => exact operand .operand rfl
  | argument => exact operand .argument rfl
  | operator named => exact closing named calls

end Outlook

namespace Grammar

open Outlook

mutual

theorem Sum.follow {kinds : List TokenKind} {tree : Expr} {levels : Nat}
    (sum : Sum kinds tree levels) (calls : List Bool) :
    ∃ named, Outlook.follow ⟨.operand, calls⟩ kinds = some ⟨.operator named, calls⟩ := by
  match sum with
  | .product product => exact product.follow calls
  | .join operator _ left right =>
      obtain ⟨named, leftRun⟩ := left.follow calls
      rw [follow_append leftRun, follow_cons after_operator]
      exact right.follow calls

theorem Product.follow {kinds : List TokenKind} {tree : Expr} {levels : Nat}
    (product : Product kinds tree levels) (calls : List Bool) :
    ∃ named, Outlook.follow ⟨.operand, calls⟩ kinds = some ⟨.operator named, calls⟩ := by
  match product with
  | .signed signed => exact signed.follow calls
  | .join operator _ left right =>
      obtain ⟨named, leftRun⟩ := left.follow calls
      rw [follow_append leftRun, follow_cons after_operator]
      exact right.follow calls

theorem Signed.follow {kinds : List TokenKind} {tree : Expr} {levels : Nat}
    (signed : Signed kinds tree levels) (calls : List Bool) :
    ∃ named, Outlook.follow ⟨.operand, calls⟩ kinds = some ⟨.operator named, calls⟩ := by
  match signed with
  | .minus operand => exact operand.follow calls
  | .plus operand => exact operand.follow calls
  | .power power => exact power.follow calls

theorem Power.follow {kinds : List TokenKind} {tree : Expr} {levels : Nat}
    (power : Power kinds tree levels) (calls : List Bool) :
    ∃ named, Outlook.follow ⟨.operand, calls⟩ kinds = some ⟨.operator named, calls⟩ := by
  match power with
  | .primary primary => exact primary.follow calls
  | .raise base exponent =>
      obtain ⟨named, baseRun⟩ := base.follow calls
      have taken : after ⟨.operator named, calls⟩ (.operator '^') = some ⟨.operand, calls⟩ := rfl
      rw [follow_append baseRun, follow_cons taken]
      exact exponent.follow calls

theorem Primary.follow {kinds : List TokenKind} {tree : Expr} {levels : Nat}
    (primary : Primary kinds tree levels) (calls : List Bool) :
    ∃ named, Outlook.follow ⟨.operand, calls⟩ kinds = some ⟨.operator named, calls⟩ := by
  match primary with
  | .number value => exact ⟨false, rfl⟩
  | .constant name => exact ⟨true, rfl⟩
  | .call function arguments => exact ⟨false, arguments.follow calls⟩
  | .group sum =>
      obtain ⟨named, run⟩ := sum.follow (false :: calls)
      have opened : after ⟨.operand, calls⟩ .leftParenthesis =
          some ⟨.operand, false :: calls⟩ := rfl
      refine ⟨false, ?_⟩
      rw [follow_cons opened, follow_append run, follow_cons after_rightParenthesis, follow_nil]

theorem Arguments.follow {kinds : List TokenKind} {trees : List Expr} {levels : Nat}
    (arguments : Arguments kinds trees levels) (calls : List Bool) :
    Outlook.follow ⟨.argument, true :: calls⟩ (kinds ++ [.rightParenthesis]) =
      some ⟨.operator false, calls⟩ := by
  match arguments with
  | .none => rfl
  | .some series =>
      obtain ⟨first, rest, same, opens⟩ := series.head
      have other : first ≠ .rightParenthesis := by
        rintro rfl
        contradiction
      obtain ⟨named, run⟩ := series.follow calls
      have started : Outlook.follow ⟨.argument, true :: calls⟩ kinds =
          some ⟨.operator named, true :: calls⟩ := by
        rw [same] at run ⊢
        rw [follow_argument other, run]
      rw [follow_append started, follow_cons after_rightParenthesis, follow_nil]

theorem Series.follow {kinds : List TokenKind} {trees : List Expr} {levels : Nat}
    (series : Series kinds trees levels) (calls : List Bool) :
    ∃ named, Outlook.follow ⟨.operand, true :: calls⟩ kinds =
      some ⟨.operator named, true :: calls⟩ := by
  match series with
  | .last sum => exact sum.follow (true :: calls)
  | .next first rest =>
      obtain ⟨named, run⟩ := first.follow (true :: calls)
      have taken : after ⟨.operator named, true :: calls⟩ .comma =
          some ⟨.operand, true :: calls⟩ := rfl
      rw [follow_append run, follow_cons taken]
      exact rest.follow calls

end

end Grammar

end Reckoner
