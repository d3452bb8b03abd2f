import Reckoner.Proofs.Token.Scanning

/-!
# What the tokens of a text hold

What a text is read as comes from its division into pieces (`Token.Scans`), and what its tokens hold
is seen there.  The numbers have no sign.  The names are lower case, and each of them is read back
unchanged, as one name, unless the text has a capital `İ`: this letter alone is lowered to something
that cannot stand in a name, or anywhere else.
-/

namespace Reckoner

namespace Token

variable {rest run text : List Char} {kind : TokenKind} {tokens : List Token} {position : Nat}
  {character : Char}

/-- Outside ASCII there are only names. -/
theorem Lexeme.name_of_mem (lexeme : Lexeme rest run kind) (member : character ∈ run)
    (above : 0x80 ≤ character.toNat) :
    continuesName character = true ∧
      kind = .identifier (String.ofList (Text.lowerCharacters run)) := by
  have other : ∀ symbol : Char, symbol.toNat < 0x80 → character ≠ symbol := by
    rintro symbol ascii rfl
    omega
  cases lexeme with
  | name starts inside _ =>
      refine ⟨?_, rfl⟩
      rcases List.mem_cons.mp member with rfl | behind
      · exact continuesName_of_startsName starts
      · exact inside character behind
  | number digits _ _ _ _ =>
      have starts := digits character member
      have noDigit : ¬character.isDigit = true := by
        intro digit
        have bounds : 48 ≤ character.toNat ∧ character.toNat ≤ 57 := by
          simpa [Char.isDigit, UInt32.le_iff_toNat_le] using digit
        omega
      simp [startsNumber, noDigit, other '.' (by decide)] at starts
  | operator operator =>
      refine absurd (List.mem_singleton.mp member) (other _ ?_)
      cases operator <;> decide
  | leftParenthesis => exact absurd (List.mem_singleton.mp member) (other _ (by decide))
  | rightParenthesis => exact absurd (List.mem_singleton.mp member) (other _ (by decide))
  | comma => exact absurd (List.mem_singleton.mp member) (other _ (by decide))

/-- Without a capital `İ` every name of a text is read back unchanged. -/
theorem Scans.isName (scans : Scans [] position text tokens) (plain : 'İ' ∉ text) :
    ∀ name, .identifier name ∈ tokens.map Token.kind → IsName name := by
  induction scans with
  | done => exact fun _ => nofun
  | blank _ _ induction =>
      rw [List.mem_cons, not_or] at plain
      exact induction plain.2
  | piece lexeme _ induction =>
      rw [List.mem_append, not_or] at plain
      intro name member
      rcases List.mem_cons.mp member with same | behind
      · cases lexeme with
        | name starts inside _ =>
            cases same
            have continues := continuesName_of_startsName starts
            exact isName_of_run starts (List.forall_mem_cons.mpr ⟨continues, inside⟩) plain.1
        | _ => cases same
      · exact induction plain.2 name behind

/-- The numbers of a text have no sign. -/
theorem Scans.unsigned (scans : Scans [] position text tokens) :
    ∀ value, .number value ∈ tokens.map Token.kind → Number.Unsigned value := by
  induction scans with
  | done => exact fun _ => nofun
  | blank _ _ induction => exact induction
  | piece lexeme _ induction =>
      intro value member
      rcases List.mem_cons.mp member with same | behind
      · cases lexeme with
        | number _ _ _ _ rounds =>
            cases same
            rw [Decimal.roundsTo_iff.mp rounds]
            exact Number.toFloat_unsigned _
        | _ => cases same
      · exact induction value behind

/-- The dot that is left of a capital `İ` stands in no text that is read. -/
theorem Scans.dot_not_mem (scans : Scans [] position text tokens) : '\u0307' ∉ text := by
  induction scans with
  | done => exact nofun
  | blank blank _ induction =>
      rw [List.mem_cons, not_or]
      refine ⟨?_, induction⟩
      rintro rfl
      exact absurd blank (by decide)
  | piece lexeme _ induction =>
      rw [List.mem_append, not_or]
      refine ⟨?_, induction⟩
      intro member
      have continues := (lexeme.name_of_mem member (by decide)).1
      exact absurd continues (by decide +kernel)

/-- The dot of a capital `İ` is left in the name in which the letter stands. -/
theorem Scans.dot_mem_name (scans : Scans [] position text tokens) (dotted : 'İ' ∈ text) :
    ∃ name, .identifier name ∈ tokens.map Token.kind ∧ '\u0307' ∈ name.toList := by
  induction scans with
  | done => cases dotted
  | blank blank _ induction =>
      rcases List.mem_cons.mp dotted with rfl | behind
      · exact absurd blank (by decide)
      · exact induction behind
  | piece lexeme _ induction =>
      rcases List.mem_append.mp dotted with inside | behind
      · obtain ⟨_, rfl⟩ := lexeme.name_of_mem inside (by decide)
        refine ⟨_, List.mem_cons_self, ?_⟩
        rw [String.toList_ofList]
        exact List.mem_flatMap.mpr ⟨_, inside, by decide⟩
      · obtain ⟨name, member, dot⟩ := induction behind
        exact ⟨name, List.mem_cons_of_mem _ member, dot⟩

end Token

end Reckoner
