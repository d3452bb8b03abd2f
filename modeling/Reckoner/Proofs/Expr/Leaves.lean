import Reckoner.Proofs.Expr.RoundTrip

/-!
# The leaves of an expression

The numbers among the tokens of an expression are its literals, and the names are its names, each
from left to right.

An infinite literal has no text of its own: it is written `inf`, and this is read as a name.
`Expr.spelled` is the expression that the text stands for, with this name in place of every literal
that is not finite.
-/

namespace Reckoner

namespace TokenKind

def number? : TokenKind → Option Float
  | .number value => some value
  | _ => none

def name? : TokenKind → Option String
  | .identifier name => some name
  | _ => none

end TokenKind

namespace Grammar

open TokenKind (number? name?)

mutual

/-- The numbers and the names among the tokens of a sum are those of its tree. -/
theorem Sum.leaves {kinds : List TokenKind} {tree : Expr} {levels : Nat}
    (sum : Sum kinds tree levels) :
    kinds.filterMap number? = tree.literals ∧ kinds.filterMap name? = tree.names := by
  match sum with
  | .product product => exact product.leaves
  | .join operator _ left right =>
      simp [List.filterMap_cons, number?, name?, Expr.literals, Expr.names, left.leaves,
        right.leaves]

theorem Product.leaves {kinds : List TokenKind} {tree : Expr} {levels : Nat}
    (product : Product kinds tree levels) :
    kinds.filterMap number? = tree.literals ∧ kinds.filterMap name? = tree.names := by
  match product with
  | .signed signed => exact signed.leaves
  | .join operator _ left right =>
      simp [List.filterMap_cons, number?, name?, Expr.literals, Expr.names, left.leaves,
        right.leaves]

theorem Signed.leaves {kinds : List TokenKind} {tree : Expr} {levels : Nat}
    (signed : Signed kinds tree levels) :
    kinds.filterMap number? = tree.literals ∧ kinds.filterMap name? = tree.names := by
  match signed with
  | .minus operand => exact operand.leaves
  | .plus operand => exact operand.leaves
  | .power power => exact power.leaves

theorem Power.leaves {kinds : List TokenKind} {tree : Expr} {levels : Nat}
    (power : Power kinds tree levels) :
    kinds.filterMap number? = tree.literals ∧ kinds.filterMap name? = tree.names := by
  match power with
  | .primary primary => exact primary.leaves
  | .raise base exponent =>
      simp [List.filterMap_cons, number?, name?, Expr.literals, Expr.names, base.leaves,
        exponent.leaves]

theorem Primary.leaves {kinds : List TokenKind} {tree : Expr} {levels : Nat}
    (primary : Primary kinds tree levels) :
    kinds.filterMap number? = tree.literals ∧ kinds.filterMap name? = tree.names := by
  match primary with
  | .number value => exact ⟨rfl, rfl⟩
  | .constant name => exact ⟨rfl, rfl⟩
  | .call function arguments =>
      simp [List.filterMap_cons, number?, name?, Expr.literals, Expr.names, arguments.leaves]
  | .group sum => simp [List.filterMap_cons, number?, name?, sum.leaves]

theorem Arguments.leaves {kinds : List TokenKind} {arguments : List Expr} {levels : Nat}
    (derivation : Arguments kinds arguments levels) :
    kinds.filterMap number? = Expr.literalsAll arguments ∧
      kinds.filterMap name? = Expr.namesAll arguments := by
  match derivation with
  | .none => exact ⟨rfl, rfl⟩
  | .some series => exact series.leaves

theorem Series.leaves {kinds : List TokenKind} {arguments : List Expr} {levels : Nat}
    (series : Series kinds arguments levels) :
    kinds.filterMap number? = Expr.literalsAll arguments ∧
      kinds.filterMap name? = Expr.namesAll arguments := by
  match series with
  | .last sum => simp [Expr.literalsAll, Expr.namesAll, sum.leaves]
  | .next first rest =>
      simp [List.filterMap_cons, number?, name?, Expr.literalsAll, Expr.namesAll, first.leaves,
        rest.leaves]

end

variable {kinds : List TokenKind} {tree : Expr} {levels : Nat}

theorem Sum.mem_literals (sum : Sum kinds tree levels) {value : Float} :
    value ∈ tree.literals ↔ .number value ∈ kinds := by
  rw [← sum.leaves.1, List.mem_filterMap]
  constructor
  · rintro ⟨kind, member, same⟩
    cases kind with
    | number other =>
        cases same
        exact member
    | _ => cases same
  · intro member
    exact ⟨_, member, rfl⟩

theorem Sum.mem_names (sum : Sum kinds tree levels) {name : String} :
    name ∈ tree.names ↔ .identifier name ∈ kinds := by
  rw [← sum.leaves.2, List.mem_filterMap]
  constructor
  · rintro ⟨kind, member, same⟩
    cases kind with
    | identifier other =>
        cases same
        exact member
    | _ => cases same
  · intro member
    exact ⟨_, member, rfl⟩

end Grammar

namespace Expr

theorem mem_enclose {character : Char} {characters : List Char} (enclosed : Bool)
    (member : character ∈ characters) : character ∈ enclose enclosed characters := by
  cases enclosed with
  | false => exact member
  | true => exact List.mem_append_left _ (List.mem_cons_of_mem _ member)

mutual

/-- The names of an expression stand in its text. -/
theorem mem_characters_of_mem_names (tree : Expr) {name : String} (inside : name ∈ tree.names)
    {character : Char} (member : character ∈ name.toList) : character ∈ tree.characters := by
  match tree with
  | .literal value => simp [names] at inside
  | .constant other =>
      rw [List.mem_singleton.mp inside] at member
      exact member
  | .negate operand =>
      have operandMember := mem_characters_of_mem_names operand inside member
      exact List.mem_cons_of_mem _ (mem_enclose _ operandMember)
  | .binary operator left right =>
      rw [names, List.mem_append] at inside
      rw [characters, List.mem_append]
      rcases inside with insideLeft | insideRight
      · exact .inl (mem_enclose _ (mem_characters_of_mem_names left insideLeft member))
      · have rightMember := mem_enclose (operator.enclosesRight right.level)
          (mem_characters_of_mem_names right insideRight member)
        exact .inr (by simp [rightMember])
  | .call function arguments =>
      rw [names, List.mem_cons] at inside
      rw [characters]
      rcases inside with rfl | insideArguments
      · simp [member]
      · have argumentMember := mem_argumentCharacters_of_mem_names arguments insideArguments member
        simp [argumentMember]

theorem mem_argumentCharacters_of_mem_names (arguments : List Expr) {name : String}
    (inside : name ∈ namesAll arguments) {character : Char} (member : character ∈ name.toList) :
    character ∈ argumentCharacters arguments := by
  match arguments with
  | [] => simp [namesAll] at inside
  | [argument] =>
      rw [namesAll, namesAll, List.append_nil] at inside
      exact mem_characters_of_mem_names argument inside member
  | argument :: next :: others =>
      rw [namesAll, List.mem_append] at inside
      rw [argumentCharacters, List.mem_append]
      · rcases inside with first | rest
        · exact .inl (mem_characters_of_mem_names argument first member)
        · have restMember := mem_argumentCharacters_of_mem_names (next :: others) rest member
          exact .inr (by simp [restMember])
      · simp

end

mutual

/-- The expression with the name `inf` for every literal that is not finite. -/
def spelled : Expr → Expr
  | .literal value => if value.isFinite then .literal value else .constant "inf"
  | .constant name => .constant name
  | .negate operand => .negate operand.spelled
  | .binary operator left right => .binary operator left.spelled right.spelled
  | .call function arguments => .call function (spelledAll arguments)

def spelledAll : List Expr → List Expr
  | [] => []
  | argument :: rest => argument.spelled :: spelledAll rest

end

theorem level_spelled {tree : Expr} (unsigned : ∀ value ∈ tree.literals, Number.Unsigned value) :
    tree.spelled.level = tree.level := by
  cases tree with
  | literal value =>
      have nonnegative := (unsigned value List.mem_cons_self).nonnegative
      rw [spelled]
      split
      · rfl
      · simp [level, nonnegative]
  | constant name => rfl
  | negate operand => rfl
  | binary operator left right => rfl
  | call function arguments => rfl

mutual

/-- Both expressions have the same text. -/
theorem characters_spelled (tree : Expr)
    (unsigned : ∀ value ∈ tree.literals, Number.Unsigned value) :
    tree.spelled.characters = tree.characters := by
  match tree with
  | .literal value =>
      rw [spelled]
      split
      · rfl
      · next infinite =>
          have defined := (unsigned value List.mem_cons_self).defined
          rw [defined.resolve_left infinite]
          exact Number.characters_infinity.symm
  | .constant name => rfl
  | .negate operand =>
      rw [literals] at unsigned
      rw [spelled, characters, characters, level_spelled unsigned,
        characters_spelled operand unsigned]
  | .binary operator left right =>
      obtain ⟨leftUnsigned, rightUnsigned⟩ := List.forall_mem_append.mp unsigned
      rw [spelled, characters, characters, level_spelled leftUnsigned, level_spelled rightUnsigned,
        characters_spelled left leftUnsigned, characters_spelled right rightUnsigned]
  | .call function arguments =>
      rw [literals] at unsigned
      rw [spelled, characters, characters, argumentCharacters_spelledAll arguments unsigned]

theorem argumentCharacters_spelledAll (arguments : List Expr)
    (unsigned : ∀ value ∈ literalsAll arguments, Number.Unsigned value) :
    argumentCharacters (spelledAll arguments) = argumentCharacters arguments := by
  match arguments with
  | [] => rfl
  | [argument] =>
      exact characters_spelled argument (List.forall_mem_append.mp unsigned).1
  | argument :: next :: others =>
      obtain ⟨firstUnsigned, restUnsigned⟩ := List.forall_mem_append.mp unsigned
      have first := characters_spelled argument firstUnsigned
      have rest := argumentCharacters_spelledAll (next :: others) restUnsigned
      simp only [spelledAll, argumentCharacters] at rest ⊢
      rw [first, rest]

end

mutual

theorem of_mem_literals_spelled (tree : Expr) {value : Float}
    (member : value ∈ tree.spelled.literals) :
    value ∈ tree.literals ∧ value.isFinite = true := by
  match tree with
  | .literal other =>
      rw [spelled] at member
      split at member
      · next finite =>
          rw [List.mem_singleton.mp member]
          exact ⟨List.mem_cons_self, finite⟩
      · simp [literals] at member
  | .constant name => simp [spelled, literals] at member
  | .negate operand => exact of_mem_literals_spelled operand member
  | .binary operator left right =>
      rw [spelled, literals, List.mem_append] at member
      rcases member with inLeft | inRight
      · exact (of_mem_literals_spelled left inLeft).imp_left (List.mem_append_left _)
      · exact (of_mem_literals_spelled right inRight).imp_left (List.mem_append_right _)
  | .call function arguments => exact of_mem_literalsAll_spelledAll arguments member

theorem of_mem_literalsAll_spelledAll (arguments : List Expr) {value : Float}
    (member : value ∈ literalsAll (spelledAll arguments)) :
    value ∈ literalsAll arguments ∧ value.isFinite = true := by
  match arguments with
  | [] => simp [spelledAll, literalsAll] at member
  | argument :: rest =>
      rw [spelledAll, literalsAll, List.mem_append] at member
      rcases member with first | behind
      · exact (of_mem_literals_spelled argument first).imp_left (List.mem_append_left _)
      · exact (of_mem_literalsAll_spelledAll rest behind).imp_left (List.mem_append_right _)

end

mutual

theorem of_mem_names_spelled (tree : Expr) {name : String} (member : name ∈ tree.spelled.names) :
    name ∈ tree.names ∨ name = "inf" := by
  match tree with
  | .literal value =>
      rw [spelled] at member
      split at member
      · simp [names] at member
      · exact .inr (List.mem_singleton.mp member)
  | .constant other => exact .inl member
  | .negate operand => exact of_mem_names_spelled operand member
  | .binary operator left right =>
      rw [spelled, names, List.mem_append] at member
      rcases member with inLeft | inRight
      · exact (of_mem_names_spelled left inLeft).imp_left (List.mem_append_left _)
      · exact (of_mem_names_spelled right inRight).imp_left (List.mem_append_right _)
  | .call function arguments =>
      rw [spelled, names, List.mem_cons] at member
      rcases member with rfl | inside
      · exact .inl List.mem_cons_self
      · exact (of_mem_namesAll_spelledAll arguments inside).imp_left (List.mem_cons_of_mem _)

theorem of_mem_namesAll_spelledAll (arguments : List Expr) {name : String}
    (member : name ∈ namesAll (spelledAll arguments)) :
    name ∈ namesAll arguments ∨ name = "inf" := by
  match arguments with
  | [] => simp [spelledAll, namesAll] at member
  | argument :: rest =>
      rw [spelledAll, namesAll, List.mem_append] at member
      rcases member with first | behind
      · exact (of_mem_names_spelled argument first).imp_left (List.mem_append_left _)
      · exact (of_mem_namesAll_spelledAll rest behind).imp_left (List.mem_append_right _)

end

end Expr

end Reckoner
