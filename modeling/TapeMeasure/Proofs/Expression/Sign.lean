import TapeMeasure.Proofs.Expression.Mixed
import TapeMeasure.Proofs.Token.Sign

/-!
# Signs of operands

An operand has the sign of its first token, and the signs of its other tokens are not looked at.
There are none: within an operand no token leaves room for a sign.  So the sign of every token of an
expression counts, and it counts for all components of its operand.

* `Token.unsignedTotal`, `Operand.Writes.magnitude_eq`: what the tokens of an operand add up to.
* `Operand.Writes.isOperator_eq_false`: no operator is part of an operand.
* `Operand.SignedFirst`: an operand whose sign stands on its first token and nowhere else.
* `Cut.filter_isNegative`, `SignedFirst.filter_isNegative`: which tokens are negative.
* `ofText_signs`: from the minus signs of a text to the values of its operands.
-/

namespace TapeMeasure

/-- What tokens add up to in inches without their signs; a number with a feet mark counts twelve
times. -/
def Token.unsignedTotal : List Token → Rat
  | [] => 0
  | .number literal _ _ :: .feetMark _ :: tokens =>
    literal.value.toRat * 12 + unsignedTotal tokens
  | .number literal _ _ :: tokens => literal.value.toRat + unsignedTotal tokens
  | .fraction ratio _ _ :: tokens => ratio.toRat + unsignedTotal tokens
  | _ :: tokens => unsignedTotal tokens

namespace Operand

open Token (unsignedTotal LeavesRoom)

section

variable {tokens : List Token} {inches : Option Literal} {fraction : Option Ratio} {percent : Bool}
  {o : Operand}

/-! ## The components of an operand -/

theorem WritesParts.unsignedTotal_eq (h : WritesParts tokens inches fraction percent) :
    unsignedTotal tokens =
      (inches.map fun literal => literal.value.toRat).getD 0 +
        (fraction.map Ratio.toRat).getD 0 := by
  cases h with
  | mk writesInches writesFraction writesMark writesPercent whole hasInches =>
    cases writesInches <;> cases writesFraction <;> cases writesMark <;> cases writesPercent <;>
      simp [unsignedTotal]

/-- The magnitude of an operand is what its tokens add up to. -/
theorem Writes.magnitude_eq (h : Writes tokens o) : o.magnitude = unsignedTotal tokens := by
  cases h with
  | feet literal negative position mark parts =>
    rw [unsignedTotal, parts.unsignedTotal_eq, ← add_assoc]
    rfl
  | inches literal negative position parts =>
    rw [parts.unsignedTotal_eq, magnitude, ofParts, Option.map_none, Option.getD_none, zero_mul,
      zero_add]
  | fraction ratio negative position parts =>
    rw [parts.unsignedTotal_eq, magnitude, ofParts, Option.map_none, Option.getD_none, zero_mul,
      zero_add]

theorem WritesParts.isOperator_eq_false (h : WritesParts tokens inches fraction percent) :
    ∀ token ∈ tokens, token.isOperator = false := by
  cases h with
  | mk writesInches writesFraction writesMark writesPercent whole hasInches =>
    cases writesInches <;> cases writesFraction <;> cases writesMark <;> cases writesPercent <;>
      simp [Token.isOperator]

/-- No operator is part of an operand. -/
theorem Writes.isOperator_eq_false (h : Writes tokens o) :
    ∀ token ∈ tokens, token.isOperator = false := by
  cases h with
  | feet literal negative position mark parts =>
    exact List.forall_mem_cons.mpr
      ⟨rfl, List.forall_mem_cons.mpr ⟨rfl, parts.isOperator_eq_false⟩⟩
  | inches literal negative position parts => exact parts.isOperator_eq_false
  | fraction ratio negative position parts => exact parts.isOperator_eq_false

/-! ## The sign of an operand -/

/-- The sign of an operand is that of its first token, no token behind it has one, and it applies
to everything that the tokens add up to. -/
structure SignedFirst (tokens : List Token) (o : Operand) : Prop where
  first : ∃ token rest, tokens = token :: rest ∧ token.isNegative = o.negative ∧
    ∀ later ∈ rest, later.isNegative = false
  total_eq : o.total = if o.negative then -unsignedTotal tokens else unsignedTotal tokens

theorem Writes.exists_first (h : Writes tokens o) :
    ∃ token rest, tokens = token :: rest ∧ token.isNegative = o.negative := by
  cases h <;> exact ⟨_, _, rfl, rfl⟩

/-- Of the tokens of an operand only the first one can be negative, and it is if the operand is. -/
theorem SignedFirst.filter_isNegative (h : SignedFirst tokens o) :
    tokens.filter Token.isNegative = if o.negative then tokens.take 1 else [] := by
  obtain ⟨token, rest, rfl, hsign, hrest⟩ := h.first
  have hlater : rest.filter Token.isNegative = [] :=
    List.filter_eq_nil_iff.mpr fun later hlater => by rw [hrest later hlater]; decide
  rw [← hsign]
  cases hnegative : token.isNegative with
  | false =>
    rw [List.filter_cons_of_neg (by rw [hnegative]; decide), hlater]
    rfl
  | true =>
    rw [List.filter_cons_of_pos hnegative, hlater]
    rfl

theorem filter_isNegative_of_forall₂ {operands : List (List Token)} {os : List Operand}
    (h : List.Forall₂ SignedFirst operands os) :
    operands.flatMap (List.filter Token.isNegative) =
      (operands.zip os).flatMap fun (xs, o) => if o.negative then xs.take 1 else [] := by
  induction h with
  | nil => rfl
  | cons hfirst hrest ih =>
    rw [List.flatMap_cons, List.zip_cons_cons, List.flatMap_cons, hfirst.filter_isNegative, ih]

/-- Without operators, no token leaves room for the sign of another one. -/
theorem isNegative_eq_false_of_isChain {token : Token} {rest : List Token}
    (h : (token :: rest).IsChain LeavesRoom)
    (hoperator : ∀ t ∈ token :: rest, t.isOperator = false) :
    ∀ later ∈ rest, later.isNegative = false := by
  induction rest generalizing token with
  | nil => exact fun later hlater => absurd hlater List.not_mem_nil
  | cons next rest ih =>
    obtain ⟨hroom, hchain⟩ := List.isChain_cons_cons.mp h
    obtain ⟨hfirst, hoperator⟩ := List.forall_mem_cons.mp hoperator
    refine List.forall_mem_cons.mpr ⟨?_, ih hchain hoperator⟩
    rw [← Bool.not_eq_true]
    intro hnegative
    rw [hroom hnegative] at hfirst
    cases hfirst

/-- Where signs stand behind operators only, an operand has its sign in front. -/
theorem Writes.signedFirst (h : Writes tokens o) (hchain : tokens.IsChain LeavesRoom) :
    SignedFirst tokens o where
  first := by
    obtain ⟨token, rest, rfl, hsign⟩ := h.exists_first
    exact ⟨token, rest, rfl, hsign, isNegative_eq_false_of_isChain hchain h.isOperator_eq_false⟩
  total_eq := by rw [total, h.magnitude_eq]

end

end Operand

namespace Expression

open Token (IsMinus LeavesRoom plainMarks startsNumber)
open Text (trim)

/-- The negative tokens of an expression are those of its operands. -/
theorem Cut.filter_isNegative (c : Cut) :
    c.tokens.filter Token.isNegative = c.operands.flatMap (List.filter Token.isNegative) := by
  have hpiece : ∀ piece : Piece, piece.tokens.filter Token.isNegative =
      piece.operand.filter Token.isNegative := fun piece =>
    List.filter_cons_of_neg Bool.false_ne_true
  rw [Cut.tokens, Cut.operands, List.filter_append, List.filter_flatMap, List.flatMap_cons,
    List.flatMap_map]
  simp only [hpiece]

/-- **No sign is lost or misplaced.** A token of a text is negative only right at a minus sign with
a number behind it, and only in front of all tokens or right behind an operator.  Every other minus
sign is an operator.  If the tokens make an expression, the negative tokens are the first ones of
its negative operands, and the sign of an operand applies to all its components. -/
theorem ofText_signs {text : String} {tokens : List Token}
    (h : Token.ofText text = .ok tokens) :
    (∀ token ∈ tokens, token.isNegative = true →
      (plainMarks (trim text.toList))[token.position]? = some '-' ∧
        startsNumber ((plainMarks (trim text.toList)).drop (token.position + 1)) = true) ∧
    tokens.IsChain (fun before token => token.isNegative = true → before.isOperator = true) ∧
    (∀ i, (plainMarks (trim text.toList))[i]? = some '-' →
      (∃ token ∈ tokens, token.isNegative = true ∧ token.position = i) ∨
        .operator .subtract i ∈ tokens) ∧
    ∀ e, ofTokens tokens = .ok e → ∃ c : Cut, c.tokens = tokens ∧ c.Writes e ∧
      List.Forall₂ Operand.SignedFirst c.operands e.operands ∧
      tokens.filter Token.isNegative = (c.operands.zip e.operands).flatMap fun (operand, o) =>
        if o.negative then operand.take 1 else [] := by
  have hlaid := Token.laidOut_of_scan h
  have hchain : tokens.IsChain LeavesRoom := (Token.isChain_of_scan h).1
  refine ⟨?_, hchain, ?_, ?_⟩
  · intro token hmem hnegative
    obtain ⟨i, hposition, hsign⟩ := hlaid.sign_of_isNegative hmem hnegative
    rw [Nat.zero_add] at hposition
    rwa [hposition]
  · intro i hi
    obtain ⟨token, hmem, hposition, hnegative | hoperator⟩ := hlaid.exists_token_of_minus hi
    · exact Or.inl ⟨token, hmem, hnegative, by rw [hposition, Nat.zero_add]⟩
    · rw [hposition, Nat.zero_add] at hoperator
      exact Or.inr (hoperator ▸ hmem)
  · intro e he
    obtain ⟨c, rfl, hwrites⟩ := exists_cut_of_ofTokens he
    have hoperands : List.Forall₂ (fun xs o => xs ∈ c.operands ∧ Operand.Writes xs o)
        c.operands e.operands :=
      (List.forall₂_and_left _ _).mpr ⟨fun _ hmem => hmem, hwrites.forall₂⟩
    have hsigned : List.Forall₂ Operand.SignedFirst c.operands e.operands := by
      refine hoperands.imp ?_
      rintro xs o ⟨hmem, hxs⟩
      have hinfix := Cut.infix_tokens hmem
      exact hxs.signedFirst <| List.IsChain.infix hchain hinfix
    refine ⟨c, rfl, hwrites, hsigned, ?_⟩
    rw [c.filter_isNegative, Operand.filter_isNegative_of_forall₂ hsigned]

/-- Of three minus signs, one is an operator and two are signs; one of these is the sign of three
feet and two inches. -/
theorem ofText_signs_minusThreeFeet :
    ∃ tokens e, Token.ofText "-3' 2 - -1/2" = .ok tokens ∧ ofTokens tokens = .ok e ∧
      tokens.map Token.isNegative = [true, false, false, false, true] ∧
      e.operands.map Operand.total = [-38, -1 / 2] ∧
      tokens.IsChain (fun before token => token.isNegative = true → before.isOperator = true) ∧
      ∃ c : Cut, c.tokens = tokens ∧ c.Writes e ∧
        List.Forall₂ Operand.SignedFirst c.operands e.operands ∧
        tokens.filter Token.isNegative = (c.operands.zip e.operands).flatMap fun (operand, o) =>
          if o.negative then operand.take 1 else [] := by
  have hread : ((Token.ofText "-3' 2 - -1/2").toOption.bind fun tokens =>
      (ofTokens tokens).toOption.map fun e =>
        (tokens.map Token.isNegative, e.operands.map Operand.total)) =
      some ([true, false, false, false, true], [-38, -1 / 2]) := by decide +kernel
  obtain ⟨tokens, htokens, hread⟩ := Option.bind_eq_some_iff.mp hread
  obtain ⟨e, he, hvalues⟩ := Option.map_eq_some_iff.mp hread
  rw [toOption_eq_some_iff] at htokens he
  obtain ⟨hsigns, htotals⟩ := Prod.mk.inj hvalues
  obtain ⟨-, hchain, -, hoperands⟩ := ofText_signs htokens
  exact ⟨tokens, e, htokens, he, hsigns, htotals, hchain, hoperands e he⟩

end Expression

end TapeMeasure
