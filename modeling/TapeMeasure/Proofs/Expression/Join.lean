import TapeMeasure.Proofs.Expression.Derivation
import TapeMeasure.Token.Spelling

/-!
# Expressions that go on

An expression goes on with an operator and an operand.  Its tokens are those of the shorter
expression, the operator, and the tokens of the operand, which may have been read elsewhere.

* `Token.moveTo`: a token at another position.
* `Operand.Writes.of_unplaced`: what tokens write does not depend on where they stand.
* `ofTokens_append_operator`: the expression that goes on with one more operand.
* `fold_goOn`: its final quantity comes from that of the shorter one.
-/

namespace TapeMeasure

namespace Token

/-- The same token at another position. -/
def moveTo (position : Nat) : Token → Token
  | number literal negative _ => number literal negative position
  | fraction ratio negative _ => fraction ratio negative position
  | feetMark _ => feetMark position
  | inchMark _ => inchMark position
  | operator op _ => operator op position
  | percent _ => percent position

/-- Tokens that only differ in their places are moved into each other. -/
theorem exists_eq_moveTo {moved token : Token} (h : moved.unplaced = token.unplaced) :
    ∃ position, moved = token.moveTo position := by
  refine ⟨moved.position, ?_⟩
  cases moved <;> cases token <;> cases h <;> rfl

end Token

namespace Operand

open Token

/-! ## Tokens that have been moved -/

section

variable {tokens moved : List Token} (hmoved : moved.map unplaced = tokens.map unplaced)

include hmoved

theorem WritesInches.of_unplaced {inches : Option Literal} (hw : WritesInches tokens inches) :
    WritesInches moved inches := by
  cases hw with
  | missing =>
    rw [List.map_eq_nil_iff.mp hmoved]
    exact .missing
  | given literal negative position =>
    obtain ⟨token, rfl, htoken⟩ := List.map_eq_singleton_iff.mp hmoved
    obtain ⟨position', rfl⟩ := exists_eq_moveTo htoken
    exact .given literal negative position'

theorem WritesFraction.of_unplaced {fraction : Option Ratio}
    (hw : WritesFraction tokens fraction) : WritesFraction moved fraction := by
  cases hw with
  | missing =>
    rw [List.map_eq_nil_iff.mp hmoved]
    exact .missing
  | given ratio negative position =>
    obtain ⟨token, rfl, htoken⟩ := List.map_eq_singleton_iff.mp hmoved
    obtain ⟨position', rfl⟩ := exists_eq_moveTo htoken
    exact .given ratio negative position'

theorem WritesInchMark.of_unplaced {marked : Bool} (hw : WritesInchMark tokens marked) :
    WritesInchMark moved marked := by
  cases hw with
  | missing =>
    rw [List.map_eq_nil_iff.mp hmoved]
    exact .missing
  | given position =>
    obtain ⟨token, rfl, htoken⟩ := List.map_eq_singleton_iff.mp hmoved
    obtain ⟨position', rfl⟩ := exists_eq_moveTo htoken
    exact .given position'

theorem WritesPercent.of_unplaced {percent : Bool} (hw : WritesPercent tokens percent) :
    WritesPercent moved percent := by
  cases hw with
  | missing =>
    rw [List.map_eq_nil_iff.mp hmoved]
    exact .missing
  | given position =>
    obtain ⟨token, rfl, htoken⟩ := List.map_eq_singleton_iff.mp hmoved
    obtain ⟨position', rfl⟩ := exists_eq_moveTo htoken
    exact .given position'

theorem WritesParts.of_unplaced {inches : Option Literal} {fraction : Option Ratio}
    {percent : Bool} (hw : WritesParts tokens inches fraction percent) :
    WritesParts moved inches fraction percent := by
  cases hw with
  | mk writesInches writesFraction writesMark writesPercent whole hasInches =>
    rw [List.map_append, List.map_append, List.map_append] at hmoved
    obtain ⟨ti, rest, rfl, hti, hrest⟩ := List.map_eq_append_iff.mp hmoved
    obtain ⟨tf, rest, rfl, htf, hrest⟩ := List.map_eq_append_iff.mp hrest
    obtain ⟨tm, tp, rfl, htm, htp⟩ := List.map_eq_append_iff.mp hrest
    exact .mk (writesInches.of_unplaced hti) (writesFraction.of_unplaced htf)
      (writesMark.of_unplaced htm) (writesPercent.of_unplaced htp) whole hasInches

/-- Tokens that have been moved write the same operand. -/
theorem Writes.of_unplaced {operand : Operand} (hw : Writes tokens operand) :
    Writes moved operand := by
  cases hw with
  | feet literal negative position mark parts =>
    obtain ⟨token, rest, rfl, htoken, hbehind⟩ := List.map_eq_cons_iff.mp hmoved
    obtain ⟨position', rfl⟩ := exists_eq_moveTo htoken
    obtain ⟨token, rest, rfl, htoken, hrest⟩ := List.map_eq_cons_iff.mp hbehind
    obtain ⟨mark', rfl⟩ := exists_eq_moveTo htoken
    exact .feet literal negative position' mark' (parts.of_unplaced hrest)
  | inches literal negative position parts =>
    have hparts := parts.of_unplaced hmoved
    obtain ⟨token, rest, rfl, htoken, -⟩ := List.map_eq_cons_iff.mp hmoved
    obtain ⟨position', rfl⟩ := exists_eq_moveTo htoken
    exact .inches literal negative position' hparts
  | fraction ratio negative position parts =>
    have hparts := parts.of_unplaced hmoved
    obtain ⟨token, rest, rfl, htoken, -⟩ := List.map_eq_cons_iff.mp hmoved
    obtain ⟨position', rfl⟩ := exists_eq_moveTo htoken
    exact .fraction ratio negative position' hparts

end

end Operand

namespace Expression

/-! ## One more operand -/

/-- An expression that goes on with an operator and an operand. -/
def goOn (e : Expression) (op : Operator) (operand : Operand) : Expression :=
  ⟨e.first, e.rest ++ [(op, operand)]⟩

theorem WritesPairs.append {pieces pieces' : List Piece} {rest rest' : List (Operator × Operand)}
    (h : WritesPairs pieces rest) (h' : WritesPairs pieces' rest') :
    WritesPairs (pieces ++ pieces') (rest ++ rest') := by
  induction h with
  | nil => exact h'
  | cons piece writes _ ih => exact .cons piece writes ih

/-- Behind an expression, an operator and the tokens of an operand are read as one more step. -/
theorem ofTokens_append_operator {tokens behind : List Token} {e : Expression} {operand : Operand}
    (h : ofTokens tokens = .ok e) (hw : Operand.Writes behind operand) (op : Operator)
    (position : Nat) :
    ofTokens (tokens ++ .operator op position :: behind) = .ok (e.goOn op operand) := by
  obtain ⟨c, rfl, hc⟩ := exists_cut_of_ofTokens h
  have hlast : WritesPairs [⟨op, position, behind⟩] [(op, operand)] :=
    .cons ⟨op, position, behind⟩ hw .nil
  have hcut : (⟨c.first, c.pieces ++ [⟨op, position, behind⟩]⟩ : Cut).Writes (e.goOn op operand) :=
    ⟨hc.first, hc.pairs.append hlast⟩
  have htokens : (⟨c.first, c.pieces ++ [⟨op, position, behind⟩]⟩ : Cut).tokens =
      c.tokens ++ .operator op position :: behind := by
    rw [Cut.tokens, Cut.tokens, List.flatMap_append, ← List.append_assoc]
    exact congrArg _ (List.append_nil _)
  rw [← htokens]
  exact ofTokens_tokens hcut

/-- The tokens of an operand are an expression without operators. -/
theorem ofTokens_of_writes {tokens : List Token} {operand : Operand}
    (h : Operand.Writes tokens operand) : ofTokens tokens = .ok ⟨operand, []⟩ := by
  have hcut : (⟨tokens, []⟩ : Cut).Writes ⟨operand, []⟩ := ⟨h, .nil⟩
  have hread := ofTokens_tokens hcut
  rwa [Cut.tokens, List.flatMap_nil, List.append_nil] at hread

/-- An expression without operators is written by the tokens of its operand. -/
theorem writes_of_ofTokens {tokens : List Token} {operand : Operand}
    (h : ofTokens tokens = .ok ⟨operand, []⟩) : Operand.Writes tokens operand := by
  obtain ⟨⟨first, pieces⟩, rfl, hfirst, hpairs⟩ := exists_cut_of_ofTokens h
  cases hpairs
  rw [Cut.tokens, List.flatMap_nil, List.append_nil]
  exact hfirst

/-- The running total goes on from the final quantity of the shorter expression. -/
theorem fold_goOn (e : Expression) (op : Operator) (operand : Operand) :
    (e.goOn op operand).fold = e.fold.bind fun total => op.apply total operand.quantity := by
  rw [fold, goOn, foldFrom_append]
  have hone : ∀ total, foldFrom total [(op, operand)] = op.apply total operand.quantity := by
    intro total
    rw [foldFrom]
    cases op.apply total operand.quantity <;> rfl
  simp only [hone]
  rfl

end Expression

end TapeMeasure
