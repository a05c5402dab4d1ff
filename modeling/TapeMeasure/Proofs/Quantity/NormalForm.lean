import TapeMeasure.Proofs.Quantity.Arithmetic

/-!
# The normal form of a multiple of a sixteenth

A quantity is built from four numbers that have to pass the rules for parts.  The parts that are
computed from a count of sixteenths, and those that are computed for the other sign, always pass,
and no other parts do: a multiple of a sixteenth has exactly one form that is accepted.

* `parts_ofSixteenths`, `parts_neg`: the computed parts (`Parts.ofSixteenths`, `Parts.neg`) are
  those of the quantities that come out.
* `sixteenths_normalForm`: the normal form, and that sums, differences and the other sign are exact
  on it.
-/

namespace TapeMeasure

namespace Quantity

theorem parts_ofSixteenths (n : Int) : (ofSixteenths n).parts = Parts.ofSixteenths n := by
  rw [ofSixteenths, parts, ofMagnitude, Parts.ofSixteenths]
  by_cases hrest : n.natAbs % 16 = 0
  · have hsign : (n.natAbs != 0) = decide (0 < n.natAbs / 16) := by
      rw [Bool.eq_iff_iff, bne_iff_ne, decide_eq_true_eq]
      omega
    simp only [hrest, hsign, if_true, Nat.gcd_zero_left]
    rfl
  · have hsign : (n.natAbs != 0) = true := by
      rw [bne_iff_ne]
      omega
    simp only [hrest, hsign, if_false, Bool.and_true]

theorem parts_neg (q : Quantity) : q.neg.parts = q.parts.neg := by
  have hzero : q.parts.whole = 0 ∧ q.parts.numerator = 0 ↔ q.isZero = true := by
    rw [isZero, Bool.and_eq_true, beq_iff_eq, beq_iff_eq]
    exact and_congr Int.natCast_eq_zero Int.natCast_eq_zero
  rw [Parts.neg]
  by_cases hz : q.isZero = true
  · have hnegative : q.negative = false := by
      by_contra hs
      have hne := magnitude_ne_zero_of_negative (Bool.eq_true_of_not_eq_false hs)
      rw [isZero, Bool.and_eq_true, beq_iff_eq, beq_iff_eq, ← magnitude_eq_zero_iff] at hz
      exact hne hz
    rw [if_pos (hzero.mpr hz)]
    simp [parts, neg, hz, hnegative]
  · rw [if_neg (fun h => hz (hzero.mp h))]
    simp [parts, neg, hz]

/-- The computed parts of a count of sixteenths are accepted. -/
theorem ofParts_ofSixteenths (n : Int) : ofParts (Parts.ofSixteenths n) = .ok (ofSixteenths n) := by
  rw [← parts_ofSixteenths, ofParts_parts]

/-- The parts of every quantity are those that are computed from its count. -/
theorem parts_eq_ofSixteenths (q : Quantity) : q.parts = Parts.ofSixteenths q.sixteenths := by
  rw [← parts_ofSixteenths, ofSixteenths_sixteenths]

/-- Whole inches have the denominator one. -/
theorem denominator_eq_one {p : Parts} (hp : p.Sound) (h : p.numerator = 0) :
    p.denominator = 1 := by
  have hreduced := hp.reduced
  have hlt := hp.numerator_lt
  rw [h, Int.gcd_zero_left] at hreduced
  omega

/-- **The normal form.** The parts computed from a count of sixteenths break no rule and have its
value; all accepted parts are of this form, so two that agree in value agree in every part; and
sums, differences and the other sign are exact and accepted. -/
theorem sixteenths_normalForm :
    (∀ n : Int, (Parts.ofSixteenths n).Sound ∧
      ((Parts.ofSixteenths n).numerator = 0 → (Parts.ofSixteenths n).denominator = 1) ∧
      ofParts (Parts.ofSixteenths n) = .ok (ofSixteenths n) ∧
      (ofSixteenths n).toRat = (n : Rat) / 16) ∧
    (∀ (p : Parts) (q : Quantity), ofParts p = .ok q →
      ∃ n : Int, (n : Rat) = 16 * q.toRat ∧ q = ofSixteenths n ∧ p = Parts.ofSixteenths n) ∧
    (∀ (p p' : Parts) (q q' : Quantity), ofParts p = .ok q → ofParts p' = .ok q' →
      q.toRat = q'.toRat → p = p') ∧
    ∀ a b : Quantity, commonDenominator a b ≠ 0 ∧
      (a.add b).toRat = a.toRat + b.toRat ∧
      ofParts (Parts.ofSixteenths (a.sixteenths + b.sixteenths)) = .ok (a.add b) ∧
      (a.subtract b).toRat = a.toRat - b.toRat ∧
      ofParts (Parts.ofSixteenths (a.sixteenths - b.sixteenths)) = .ok (a.subtract b) ∧
      a.neg.toRat = -a.toRat ∧ ofParts a.parts.neg = .ok a.neg := by
  refine ⟨?_, ?_, ?_, ?_⟩
  · intro n
    have hsound : (Parts.ofSixteenths n).Sound := by
      rw [← parts_ofSixteenths]
      exact sound_parts _
    exact ⟨hsound, denominator_eq_one hsound, ofParts_ofSixteenths n, toRat_ofSixteenths n⟩
  · intro p q hp
    refine ⟨q.sixteenths, ?_, (ofSixteenths_sixteenths q).symm, ?_⟩
    · rw [sixteenths_eq_toRat_mul, mul_comm]
    · rw [← parts_eq_ofSixteenths, parts_of_ofParts hp]
  · intro p p' q q' hp hp' hvalue
    rw [← parts_of_ofParts hp, ← parts_of_ofParts hp', toRat_injective hvalue]
  · intro a b
    refine ⟨(commonDenominator_pos a b).ne', toRat_add a b, ?_, toRat_subtract a b, ?_,
      toRat_neg a, ?_⟩
    · rw [← sixteenths_add, ← parts_eq_ofSixteenths, ofParts_parts]
    · rw [sub_eq_add_neg, ← sixteenths_neg, ← sixteenths_add, ← subtract_eq_add_neg,
        ← parts_eq_ofSixteenths, ofParts_parts]
    · rw [← parts_neg, ofParts_parts]

/-- Minus three and a half inches are accepted in one form only. -/
theorem sixteenths_normalForm_threeAndHalf :
    ofParts ⟨true, 3, 1, 2⟩ = .ok (ofSixteenths (-56)) ∧
      (∃ n : Int, (n : Rat) = 16 * (ofSixteenths (-56)).toRat ∧
        ofSixteenths (-56) = ofSixteenths n ∧ ⟨true, 3, 1, 2⟩ = Parts.ofSixteenths n) ∧
      ⟨true, 3, 1, 2⟩ = (ofSixteenths (-56)).parts :=
  ⟨by rfl, sixteenths_normalForm.2.1 ⟨true, 3, 1, 2⟩ _ (by rfl),
    sixteenths_normalForm.2.2.1 _ _ _ _ (by rfl) (ofParts_parts _) rfl⟩

end Quantity

end TapeMeasure
