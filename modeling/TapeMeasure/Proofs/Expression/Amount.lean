import TapeMeasure.Calculation
import TapeMeasure.Proofs.Expression.Derivation
import TapeMeasure.Proofs.Quantity.Arithmetic
import TapeMeasure.Proofs.Token.Scan

/-!
# Expressions of one operand

A single operand without a percent sign stands for the quantity nearest to its value, and for a
quantity exactly if it has its sign and magnitude.

* `Operand.WritesAmount`: the tokens of an operand with a sign and a magnitude.
* `Operand.WritesInchAmount`: the tokens of inches, which may stand alone or behind feet.
* `Expression.evaluate_of_writesAmount`: what the expression stands for.
-/

namespace TapeMeasure

open Text

namespace Operand

/-- The tokens write one operand with the given sign and magnitude, and no percentage. -/
def WritesAmount (tokens : List Token) (negative : Bool) (amount : Rat) : Prop :=
  ∃ operand : Operand, Writes tokens operand ∧ operand.negative = negative ∧
    operand.magnitude = amount ∧ operand.percent = false

/-- The tokens write inches that may stand alone or behind feet. -/
def WritesInchAmount (tokens : List Token) (negative : Bool) (amount : Rat) : Prop :=
  ∃ (inches : Option Literal) (fraction : Option Ratio),
    WritesParts tokens inches fraction false ∧
      Writes tokens (ofParts negative none inches fraction false) ∧
        (ofParts negative none inches fraction false).magnitude = amount

theorem magnitude_ofParts (negative : Bool) (feet inches : Option Literal)
    (fraction : Option Ratio) (percent : Bool) :
    (ofParts negative feet inches fraction percent).magnitude =
      (feet.map fun literal => literal.value.toRat).getD 0 * 12 +
        (inches.map fun literal => literal.value.toRat).getD 0 +
        (fraction.map Ratio.toRat).getD 0 := rfl

variable {tokens : List Token} {negative : Bool} {amount : Rat}

theorem WritesInchAmount.alone (h : WritesInchAmount tokens negative amount) :
    WritesAmount tokens negative amount := by
  obtain ⟨inches, fraction, -, hwrites, hamount⟩ := h
  exact ⟨_, hwrites, rfl, hamount, rfl⟩

/-- Feet in front count twelve inches each. -/
theorem WritesInchAmount.behind_feet (h : WritesInchAmount tokens false amount) (literal : Literal)
    (negative : Bool) (position mark : Nat) :
    WritesAmount (.number literal negative position :: .feetMark mark :: tokens) negative
      (literal.value.toRat * 12 + amount) := by
  obtain ⟨inches, fraction, hparts, -, hamount⟩ := h
  refine ⟨_, .feet literal negative position mark hparts, rfl, ?_, rfl⟩
  rw [← hamount, magnitude_ofParts, magnitude_ofParts]
  simp only [Option.map_some, Option.map_none, Option.getD_some, Option.getD_none]
  ring

theorem writesInchAmount_number (literal : Literal) (negative : Bool) (position : Nat) :
    WritesInchAmount [.number literal negative position] negative literal.value.toRat := by
  have hparts : WritesParts [.number literal negative position] (some literal) none false :=
    .mk (.given literal negative position) .missing .missing .missing
      (fun h => nomatch h) (fun h => nomatch h)
  refine ⟨some literal, none, hparts, .inches literal negative position hparts, ?_⟩
  show 0 * 12 + literal.value.toRat + 0 = literal.value.toRat
  ring

theorem writesInchAmount_fraction (ratio : Ratio) (negative : Bool) (position : Nat) :
    WritesInchAmount [.fraction ratio negative position] negative ratio.toRat := by
  have hparts : WritesParts [.fraction ratio negative position] none (some ratio) false :=
    .mk .missing (.given ratio negative position) .missing .missing
      (fun _ literal h => nomatch h) (fun h => nomatch h)
  refine ⟨none, some ratio, hparts, .fraction ratio negative position hparts, ?_⟩
  show 0 * 12 + 0 + ratio.toRat = ratio.toRat
  ring

theorem writesInchAmount_mixed {literal : Literal} (hwhole : '.' ∉ literal.value.short)
    (ratio : Ratio) (negative sign : Bool) (position next : Nat) :
    WritesInchAmount [.number literal negative position, .fraction ratio sign next] negative
      (literal.value.toRat + ratio.toRat) := by
  have hparts : WritesParts [.number literal negative position, .fraction ratio sign next]
      (some literal) (some ratio) false :=
    .mk (.given literal negative position) (.given ratio sign next) .missing .missing
      (fun _ other h => Option.some.inj h ▸ hwhole) (fun h => nomatch h)
  refine ⟨some literal, some ratio, hparts, .inches literal negative position hparts, ?_⟩
  show 0 * 12 + literal.value.toRat + ratio.toRat = literal.value.toRat + ratio.toRat
  ring

/-- An operand with the sign and the magnitude of a quantity stands for the quantity. -/
theorem quantity_eq {operand : Operand} {q : Quantity} (hnegative : operand.negative = q.negative)
    (hmagnitude : operand.magnitude = |q.toRat|) (hpercent : operand.percent = false) :
    operand.quantity = q := by
  have htotal : operand.total = q.toRat := by
    rw [total, hnegative, hmagnitude, ← q.toRat_eq_abs]
  rw [quantity, htotal, Quantity.ofRat_toRat]
  simp only [hpercent, Bool.false_eq_true, if_false]

end Operand

/-- The expression of a single operand is evaluated to the quantity that it stands for. -/
theorem Expression.evaluate_of_writesAmount {tokens : List Token} {q : Quantity}
    (h : Operand.WritesAmount tokens q.negative |q.toRat|) :
    ∃ e : Expression, ofTokens tokens = .ok e ∧ e.evaluate = .ok q := by
  obtain ⟨operand, hwrites, hnegative, hmagnitude, hpercent⟩ := h
  have hcut : (⟨tokens, []⟩ : Cut).Writes ⟨operand, []⟩ := ⟨hwrites, .nil⟩
  have htokens : (⟨tokens, []⟩ : Cut).tokens = tokens := List.append_nil tokens
  refine ⟨⟨operand, []⟩, ?_, ?_⟩
  · rw [← htokens]
    exact ofTokens_tokens hcut
  · rw [evaluate, fold, foldFrom_nil, Operand.quantity_eq hnegative hmagnitude hpercent]
    rfl

end TapeMeasure
