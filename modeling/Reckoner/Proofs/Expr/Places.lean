import Reckoner.Proofs.Expr.Reading

/-!
# Positions do not matter

The readers never look at a position: they only keep those of the open parentheses, and pass them on
in errors.  Two runs over tokens of the same kinds, at whatever positions, therefore go in step:
they take the same tokens, and end with the same value, or with the same error up to its position.

`Reader.InStep` says so of two readers.  It is kept by sequences of readers, and so it goes from
the few readers that touch the state to the whole expression (`Expr.ofTokens_unplaced`).
-/

namespace Reckoner

/-- The error without its position. -/
def ParseError.unplaced : ParseError → ParseError
  | .unexpectedToken found _ => .unexpectedToken found 0
  | .emptyExpression _ => .emptyExpression 0
  | .unmatchedParenthesis _ => .unmatchedParenthesis 0
  | .tooDeep limit => .tooDeep limit

namespace Reader

/-- The same kinds of tokens are left, and as many parentheses and levels are open. -/
structure State.Alike (state other : State) : Prop where
  rest : state.rest.map Token.kind = other.rest.map Token.kind
  groups : state.groups.length = other.groups.length
  nesting : state.nesting = other.nesting

/-- Both runs end in the same way, with values that are related and states that are alike. -/
inductive Agree {α : Type} (related : α → α → Prop) :
    EStateM.Result ParseError State α → EStateM.Result ParseError State α → Prop where
  | ok {value other : α} {final partner : State} : related value other → final.Alike partner →
      Agree related (.ok value final) (.ok other partner)
  | error {error other : ParseError} {final partner : State} : error.unplaced = other.unplaced →
      final.Alike partner → Agree related (.error error final) (.error other partner)

/-- From states that are alike the two readers go in step. -/
def InStep {α : Type} (related : α → α → Prop) (reader other : Reader α) : Prop :=
  ∀ state partner : State, state.Alike partner → Agree related (reader state) (other partner)

theorem Agree.runs {α : Type} {related : α → α → Prop}
    {result other : EStateM.Result ParseError State α} (agree : Agree related result other) :
    (∃ value otherValue final partner, result = .ok value final ∧
        other = .ok otherValue partner ∧ related value otherValue ∧ final.Alike partner) ∨
      ∃ error otherError final partner, result = .error error final ∧
        other = .error otherError partner ∧ error.unplaced = otherError.unplaced ∧
        final.Alike partner := by
  cases agree with
  | ok same alike => exact .inl ⟨_, _, _, _, rfl, rfl, same, alike⟩
  | error same alike => exact .inr ⟨_, _, _, _, rfl, rfl, same, alike⟩

/-- Tokens of the same kind. -/
def SameKind (token other : Token) : Prop :=
  token.kind = other.kind

variable {α β : Type} {related : α → α → Prop} {context partner : Context}

theorem InStep.pure {value other : α} (same : related value other) :
    InStep related (pure value) (pure other) :=
  fun _ _ alike => .ok same alike

theorem InStep.throw {error other : ParseError} (same : error.unplaced = other.unplaced) :
    InStep related (throw error) (throw other) :=
  fun _ _ alike => .error same alike

/-- Sequences go in step if their parts do. -/
theorem InStep.bind {first firstOther : Reader α} {next nextOther : α → Reader β}
    {results : β → β → Prop} (firstInStep : InStep related first firstOther)
    (nextInStep : ∀ value other, related value other →
      InStep results (next value) (nextOther other)) :
    InStep results (first >>= next) (firstOther >>= nextOther) := by
  intro state partner alike
  change Agree results (EStateM.bind first next state) (EStateM.bind firstOther nextOther partner)
  unfold EStateM.bind
  rcases (firstInStep state partner alike).runs with
    ⟨value, other, middle, partnerMiddle, run, otherRun, same, middleAlike⟩ |
    ⟨error, other, final, partnerFinal, run, otherRun, same, finalAlike⟩
  · rw [run, otherRun]
    exact nextInStep value other same middle partnerMiddle middleAlike
  · rw [run, otherRun]
    exact .error same finalAlike

theorem InStep.ite {condition : Prop} [Decidable condition]
    {reader partner other otherPartner : Reader α} (inStep : InStep related reader partner)
    (otherInStep : InStep related other otherPartner) :
    InStep related (if condition then reader else other)
      (if condition then partner else otherPartner) := by
  split
  · exact inStep
  · exact otherInStep

theorem State.Alike.groups_cases {state other : State} (alike : state.Alike other) :
    state.groups = [] ∧ other.groups = [] ∨
      ∃ position positions place places,
        state.groups = position :: positions ∧ other.groups = place :: places := by
  have length := alike.groups
  cases groups : state.groups with
  | nil =>
      rw [groups, List.length_nil] at length
      exact .inl ⟨rfl, List.length_eq_zero_iff.mp length.symm⟩
  | cons position positions =>
      rw [groups, List.length_cons] at length
      obtain ⟨place, places, otherGroups⟩ := List.exists_cons_of_length_eq_add_one length.symm
      exact .inr ⟨position, positions, place, places, rfl, otherGroups⟩

/-! ## The readers that touch the state -/

theorem get_inStep : InStep State.Alike get get :=
  fun _ _ alike => .ok alike alike

theorem next_kind (context : Context) (state : State) :
    (state.next context).kind = (state.rest.map Token.kind).headD .finish := by
  unfold State.next
  cases state.rest <;> rfl

theorem State.Alike.next {state other : State} (alike : state.Alike other) :
    SameKind (state.next context) (other.next partner) := by
  unfold SameKind
  rw [next_kind, next_kind, alike.rest]

theorem peek_inStep : InStep SameKind (peek context) (peek partner) := by
  intro state other alike
  rw [peek_run, peek_run]
  exact .ok (alike.next) alike

theorem advance_inStep : InStep SameKind (advance context) (advance partner) := by
  intro state other alike
  rw [advance_run, advance_run]
  refine .ok (alike.next) ⟨?_, alike.groups, alike.nesting⟩
  rw [List.map_tail, List.map_tail, alike.rest]

theorem openGroup_inStep (position place : Nat) :
    InStep Eq (openGroup position) (openGroup place) :=
  fun _ _ alike => .ok rfl ⟨alike.rest, congrArg Nat.succ alike.groups, alike.nesting⟩

/-- What is done with a token depends on its kind, and its position may be passed on. -/
theorem InStep.token {reader other : Reader Token} {next nextOther : Token → Reader β}
    {results : β → β → Prop} (inStep : InStep SameKind reader other)
    (nextInStep : ∀ kind position place,
      InStep results (next ⟨kind, position⟩) (nextOther ⟨kind, place⟩)) :
    InStep results (reader >>= next) (other >>= nextOther) := by
  apply inStep.bind
  rintro ⟨kind, position⟩ ⟨otherKind, place⟩ same
  cases (same : kind = otherKind)
  exact nextInStep kind position place

theorem InStep.value {reader other : Reader α} {next nextOther : α → Reader β}
    {results : β → β → Prop} (inStep : InStep Eq reader other)
    (nextInStep : ∀ value, InStep results (next value) (nextOther value)) :
    InStep results (reader >>= next) (other >>= nextOther) := by
  apply inStep.bind
  intro value _ same
  cases same
  exact nextInStep value

theorem closeGroup_inStep : InStep Eq (closeGroup context) (closeGroup partner) := by
  refine peek_inStep.token fun kind position place => ?_
  cases kind with
  | rightParenthesis =>
      refine advance_inStep.token fun _ _ _ => ?_
      intro state other alike
      refine .ok rfl ⟨alike.rest, ?_, alike.nesting⟩
      rw [List.length_tail, List.length_tail, alike.groups]
  | finish =>
      apply get_inStep.bind
      intro state other _
      exact .throw rfl
  | _ => exact .throw rfl

theorem readOperator_inStep (symbols : List Char) :
    InStep Eq (readOperator context symbols) (readOperator partner symbols) := by
  refine peek_inStep.token fun kind position place => ?_
  cases kind with
  | operator symbol =>
      refine InStep.ite ?_ (.pure rfl)
      exact advance_inStep.token fun _ _ _ => .pure rfl
  | _ => exact .pure rfl

/-! ## The forms of an expression -/

section Forms

variable (limits : context.limits = partner.limits)
include limits

theorem checkHeight_inStep (node : Measured) :
    InStep Eq (checkHeight context node) (checkHeight partner node) := by
  unfold checkHeight
  rw [limits]
  exact .ite (.throw rfl) (.pure rfl)

theorem chainFrom_inStep {symbols : List Char} {operand other : Reader Measured}
    (inStep : InStep Eq operand other) (steps : Nat) (left : Measured) :
    InStep Eq (chainFrom context symbols operand steps left)
      (chainFrom partner symbols other steps left) := by
  induction steps generalizing left with
  | zero => exact .pure rfl
  | succ steps induction =>
      refine (readOperator_inStep symbols).value fun read => ?_
      cases read with
      | none => exact .pure rfl
      | some operator =>
          refine inStep.value fun right => ?_
          exact (checkHeight_inStep limits _).value fun joined => induction joined

theorem chain_inStep {symbols : List Char} {operand other : Reader Measured}
    (inStep : InStep Eq operand other) :
    InStep Eq (chain context symbols operand) (chain partner symbols other) := by
  refine inStep.value fun first => ?_
  apply get_inStep.bind
  intro state otherState alike
  have length := congrArg List.length alike.rest
  rw [List.length_map, List.length_map] at length
  rw [length]
  exact chainFrom_inStep limits inStep _ first

variable {signed other : Reader Measured} (inStep : InStep Eq signed other)
include inStep

theorem sum_inStep : InStep Eq (sum context signed) (sum partner other) :=
  chain_inStep limits (chain_inStep limits inStep)

theorem argumentsFrom_inStep (steps : Nat) (read : List Measured) :
    InStep Eq (argumentsFrom context signed steps read)
      (argumentsFrom partner other steps read) := by
  induction steps generalizing read with
  | zero => exact closeGroup_inStep.value fun _ => .pure rfl
  | succ steps induction =>
      refine (sum_inStep limits inStep).value fun argument => ?_
      refine peek_inStep.token fun kind _ _ => .ite ?_ ?_
      · exact advance_inStep.token fun _ _ _ => induction _
      · exact closeGroup_inStep.value fun _ => .pure rfl

theorem arguments_inStep : InStep Eq (arguments context signed) (arguments partner other) := by
  refine peek_inStep.token fun kind _ _ => .ite ?_ ?_
  · exact closeGroup_inStep.value fun _ => .pure rfl
  · apply get_inStep.bind
    intro state otherState alike
    have length := congrArg List.length alike.rest
    rw [List.length_map, List.length_map] at length
    rw [length]
    exact argumentsFrom_inStep limits inStep _ []

theorem primary_inStep : InStep Eq (primary context signed) (primary partner other) := by
  refine advance_inStep.token fun kind position place => ?_
  cases kind with
  | number value => exact .pure rfl
  | identifier name =>
      refine peek_inStep.token fun next _ _ => .ite ?_ (.pure rfl)
      refine advance_inStep.token fun _ opening otherOpening => ?_
      refine (openGroup_inStep opening otherOpening).value fun _ => ?_
      exact (arguments_inStep limits inStep).value fun nodes => checkHeight_inStep limits _
  | leftParenthesis =>
      refine (openGroup_inStep position place).value fun _ => ?_
      refine peek_inStep.token fun next _ _ => .ite (.throw rfl) ?_
      refine (sum_inStep limits inStep).value fun inner => ?_
      exact closeGroup_inStep.value fun _ => .pure rfl
  | rightParenthesis | finish =>
      apply get_inStep.bind
      intro state otherState alike
      rcases alike.groups_cases with ⟨none, otherNone⟩ | ⟨_, _, _, _, some, otherSome⟩
      · rw [none, otherNone]
        exact .throw rfl
      · rw [some, otherSome]
        exact .throw rfl
  | _ => exact .throw rfl

theorem power_inStep : InStep Eq (power context signed) (power partner other) := by
  refine (primary_inStep limits inStep).value fun base => ?_
  refine peek_inStep.token fun kind _ _ => .ite ?_ (.pure rfl)
  refine advance_inStep.token fun _ _ _ => ?_
  exact inStep.value fun exponent => checkHeight_inStep limits _

end Forms

theorem nested_inStep (limits : context.limits = partner.limits) {reader other : Reader α}
    (inStep : InStep related reader other) :
    InStep related (nested context reader) (nested partner other) := by
  intro state otherState alike
  unfold nested
  rw [limits, alike.nesting]
  split
  · exact .error rfl alike
  · next room =>
      dsimp only
      rcases (inStep
          { state with
            nesting := otherState.nesting + 1
            deepest := max state.deepest (otherState.nesting + 1) }
          { otherState with
            nesting := otherState.nesting + 1
            deepest := max otherState.deepest (otherState.nesting + 1) }
          ⟨alike.rest, alike.groups, rfl⟩).runs with
        ⟨value, otherValue, final, otherFinal, run, otherRun, same, finalAlike⟩ |
        ⟨error, otherError, final, otherFinal, run, otherRun, same, finalAlike⟩
      · rw [run, otherRun]
        exact .ok same
          ⟨finalAlike.rest, finalAlike.groups, congrArg Nat.pred finalAlike.nesting⟩
      · rw [run, otherRun]
        exact .error same
          ⟨finalAlike.rest, finalAlike.groups, congrArg Nat.pred finalAlike.nesting⟩

theorem signed_inStep (limits : context.limits = partner.limits) (calls : Nat) :
    InStep Eq (signed context calls) (signed partner calls) := by
  induction calls with
  | zero =>
      unfold signed
      rw [limits]
      exact .throw rfl
  | succ calls induction =>
      refine nested_inStep limits (peek_inStep.token fun kind _ _ => ?_)
      dsimp only
      split
      · refine advance_inStep.token fun _ _ _ => ?_
        exact induction.value fun operand => checkHeight_inStep limits _
      · exact advance_inStep.token fun _ _ _ => induction
      · exact power_inStep limits induction

theorem whole_inStep (limits : context.limits = partner.limits) :
    InStep Eq (whole context) (whole partner) := by
  refine peek_inStep.token fun first _ _ => .ite (.throw rfl) ?_
  rw [limits]
  refine (sum_inStep limits (signed_inStep limits _)).value fun node => ?_
  refine peek_inStep.token fun kind _ _ => ?_
  cases kind with
  | finish => exact .pure rfl
  | _ => exact .throw rfl

end Reader

namespace Expr

variable {tokens others : List Token}

/-- Tokens of the same kinds, at whatever positions, make the same tree, or the same error up to
its position. -/
theorem ofTokens_unplaced (limits : Limits)
    (same : tokens.map Token.kind = others.map Token.kind) :
    (ofTokens limits tokens).mapError ParseError.unplaced =
      (ofTokens limits others).mapError ParseError.unplaced := by
  have significant : ∀ tokens : List Token,
      (tokens.takeWhile (!·.isFinish)).map Token.kind =
        (tokens.map Token.kind).takeWhile (fun kind => !Token.isFinish ⟨kind, 0⟩) := by
    intro tokens
    rw [List.takeWhile_map]
    rfl
  have start : (Reader.State.ofTokens tokens).Alike (Reader.State.ofTokens others) := by
    refine ⟨?_, rfl, rfl⟩
    rw [Reader.State.ofTokens, Reader.State.ofTokens, significant, significant, same]
  unfold ofTokens reading EStateM.run
  rcases (@Reader.whole_inStep (.ofTokens limits tokens) (.ofTokens limits others) rfl
      _ _ start).runs with
    ⟨tree, _, _, _, run, otherRun, rfl, _⟩ | ⟨error, other, _, _, run, otherRun, sameError, _⟩
  · simp only [run, otherRun]
  · simp only [run, otherRun]
    exact congrArg Except.error sameError

end Expr

end Reckoner
