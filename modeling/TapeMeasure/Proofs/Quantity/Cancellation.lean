import Mathlib.Algebra.Order.Archimedean.Basic
import TapeMeasure.Proofs.Except
import TapeMeasure.Proofs.Quantity.Nearest

/-!
# Products and quotients that undo each other

Multiplying and then dividing by the same quantity rounds twice.  The first rounding moves a value
by a thirty-second of an inch at most, and the second step makes that error larger or smaller.
Where it makes it smaller, the second rounding takes it away; where it makes it larger, two values
have been brought together before, and nothing can tell them apart again.

* `ofRat_eq_of_abs_sub_lt`: what is near enough to a quantity is rounded to it.
* `ofRat_div_mul_cancel`: a quotient is undone by the product with what was divided by, if that is
  one at most.  A division by one at least is a product with one at most.
* `exists_ofRat_div_eq`: a quotient by more than one brings two quantities together.
* `multiply_divide_cancel_iff`.
-/

namespace TapeMeasure

/-- Rounded multiples of a number below one do not all differ: if they did, they would grow by one
at each step, and so faster than the multiples. -/
theorem exists_roundHalfAway_mul_eq {c : Rat} (hc : 0 ≤ c) (hone : c < 1) :
    ∃ m n : Nat, m ≠ n ∧ roundHalfAway (m * c) = roundHalfAway (n * c) := by
  by_contra! hdiffer
  have hgrow : ∀ n : Nat, (n : Int) ≤ roundHalfAway (n * c) := by
    intro n
    induction n with
    | zero => exact roundHalfAway_nonneg (mul_nonneg (Nat.cast_nonneg _) hc)
    | succ n ih =>
      have hle : (n : Rat) * c ≤ (n + 1 : Nat) * c :=
        mul_le_mul_of_nonneg_right (Nat.cast_le.mpr (Nat.le_succ n)) hc
      have hmono := roundHalfAway_mono hle
      have hne := hdiffer n (n + 1) (Nat.succ_ne_self n).symm
      omega
  have hgap : 0 < 1 - c := sub_pos.mpr hone
  obtain ⟨n, hn⟩ := exists_nat_gt ((1 / 2) / (1 - c))
  rw [div_lt_iff₀ hgap] at hn
  have hbelow : (n : Rat) ≤ n * c + 1 / 2 := by
    have hcast : (n : Rat) ≤ (roundHalfAway (n * c) : Rat) := by exact_mod_cast hgrow n
    exact hcast.trans (roundHalfAway_bounds (mul_nonneg (Nat.cast_nonneg _) hc)).1
  linarith

namespace Quantity

/-- What is nearer to a quantity than half a sixteenth is rounded to it. -/
theorem ofRat_eq_of_abs_sub_lt {v : Rat} {q : Quantity} (h : |v - q.toRat| < 1 / 32) :
    ofRat v = q := by
  have hdistance := abs_sub_div_natCast v q.sixteenths (n := 16) (by decide)
  rw [Nat.cast_ofNat, ← toRat_eq_sixteenths_div] at hdistance
  apply sixteenths_injective
  rw [sixteenths_ofRat]
  exact roundHalfAway_eq_of_lt (by linarith)

/-- A quotient by one at most is undone by a product: the error of the quotient is not made
larger. At one and minus one there is no error. -/
theorem ofRat_div_mul_cancel (q : Quantity) {c : Rat} (hne : c ≠ 0) (hc : |c| ≤ 1) :
    ofRat ((ofRat (q.toRat / c)).toRat * c) = q := by
  rcases hc.lt_or_eq with hlt | hone
  · refine ofRat_eq_of_abs_sub_lt ?_
    have herror := abs_toRat_ofRat_sub_le (q.toRat / c)
    have hpos : 0 < |c| := abs_pos.mpr hne
    calc
      |(ofRat (q.toRat / c)).toRat * c - q.toRat|
          = |(ofRat (q.toRat / c)).toRat - q.toRat / c| * |c| := by
        rw [← abs_mul, sub_mul, div_mul_cancel₀ _ hne]
      _ ≤ 1 / 32 * |c| := mul_le_mul_of_nonneg_right herror hpos.le
      _ < 1 / 32 * 1 := mul_lt_mul_of_pos_left hlt (by norm_num)
      _ = 1 / 32 := mul_one _
  · rcases eq_or_eq_neg_of_abs_eq hone with rfl | rfl
    · rw [div_one, mul_one, ofRat_toRat, ofRat_toRat]
    · rw [div_neg, div_one, ofRat_neg, ofRat_toRat, toRat_neg, mul_neg, mul_one, neg_neg,
        ofRat_toRat]

/-- A quotient by more than one brings two quantities together. -/
theorem exists_ofRat_div_eq {c : Rat} (hc : 1 < |c|) :
    ∃ p q : Quantity, p ≠ q ∧ ofRat (p.toRat / c) = ofRat (q.toRat / c) := by
  have hpos : 0 < |c| := zero_lt_one.trans hc
  obtain ⟨m, n, hne, hround⟩ :=
    exists_roundHalfAway_mul_eq (inv_nonneg.mpr hpos.le) (inv_lt_one_of_one_lt₀ hc)
  have hcount : ∀ k : Nat, (ofSixteenths k).toRat / c * 16 = k * c⁻¹ := by
    intro k
    rw [toRat_ofSixteenths, Int.cast_natCast, div_eq_mul_inv _ c]
    ring
  refine ⟨ofSixteenths m, ofSixteenths n, ?_, ?_⟩
  · intro heq
    have hsixteenths := congrArg sixteenths heq
    rw [sixteenths_ofSixteenths, sixteenths_ofSixteenths] at hsixteenths
    exact hne (Int.ofNat_inj.mp hsixteenths)
  · apply sixteenths_injective
    rw [sixteenths_ofRat, sixteenths_ofRat, hcount, hcount]
    rcases abs_choice c with habs | habs
    · rwa [habs] at hround
    · rw [habs, inv_neg, mul_neg, mul_neg, roundHalfAway_neg, roundHalfAway_neg] at hround
      exact neg_injective hround

/-- A division succeeds and gives `q` only where the divisor is not zero. -/
theorem toRat_ne_zero_of_divide {a b q : Quantity} (h : a.divide b = .ok q) : b.toRat ≠ 0 := by
  intro hzero
  rw [divide, if_pos (isZero_iff_toRat.mpr hzero)] at h
  cases h

/-- **The safe side of one.** Every product with a quantity is undone by the division exactly if
the quantity is an inch or more, and every quotient by the product exactly if it is an inch or less
and not zero, whatever the signs. -/
theorem multiply_divide_cancel_iff (b : Quantity) :
    ((∀ a : Quantity, (a.multiply b).divide b = .ok a) ↔ 1 ≤ |b.toRat|) ∧
      ((∀ a : Quantity, (a.divide b).map (·.multiply b) = .ok a) ↔
        0 < |b.toRat| ∧ |b.toRat| ≤ 1) := by
  refine ⟨⟨fun h => ?_, fun hone a => ?_⟩, ⟨fun h => ⟨?_, ?_⟩, fun ⟨hpos, hone⟩ a => ?_⟩⟩
  · -- a factor below one brings two quantities together
    have hne := toRat_ne_zero_of_divide (h zero)
    by_contra! hlt
    have hinv : 1 < |b.toRat⁻¹| := by
      rw [abs_inv]
      exact (one_lt_inv₀ (abs_pos.mpr hne)).mpr hlt
    obtain ⟨p, q, hpq, heq⟩ := exists_ofRat_div_eq hinv
    rw [div_inv_eq_mul, div_inv_eq_mul] at heq
    have hp := h p
    rw [show p.multiply b = q.multiply b from heq, h q] at hp
    exact hpq (Except.ok.inj hp).symm
  · have hne : b.toRat ≠ 0 := abs_pos.mp (zero_lt_one.trans_le hone)
    have hinv : |b.toRat⁻¹| ≤ 1 := by
      rw [abs_inv]
      exact inv_le_one_of_one_le₀ hone
    have hcancel := ofRat_div_mul_cancel a (inv_ne_zero hne) hinv
    rw [div_inv_eq_mul, ← div_eq_mul_inv] at hcancel
    rw [divide_of_toRat_ne_zero _ hne]
    exact congrArg Except.ok hcancel
  · obtain ⟨q, hq, -⟩ := map_eq_ok_iff.mp (h zero)
    exact abs_pos.mpr (toRat_ne_zero_of_divide hq)
  · -- a divisor above one brings two quantities together
    obtain ⟨r, hr, -⟩ := map_eq_ok_iff.mp (h zero)
    have hne := toRat_ne_zero_of_divide hr
    by_contra! hlt
    obtain ⟨p, q, hpq, heq⟩ := exists_ofRat_div_eq hlt
    have hp := h p
    rw [divide_of_toRat_ne_zero p hne, heq, ← divide_of_toRat_ne_zero q hne, h q] at hp
    exact hpq (Except.ok.inj hp).symm
  · have hne : b.toRat ≠ 0 := abs_pos.mp hpos
    rw [divide_of_toRat_ne_zero a hne]
    exact congrArg Except.ok (ofRat_div_mul_cancel a hne hone)

end Quantity

end TapeMeasure
