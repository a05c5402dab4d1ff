import TapeMeasure.Proofs.Quantity.NormalForm

/-!
# The nearest quantity

Every inexact operation computes a rational number and takes the quantity nearest to it.

* `IsNearest`: what it means to be nearest, said with multiples of a sixteenth.
* `isNearest_ofRat`, `eq_ofRat_iff_isNearest`: `ofRat` finds the one that is.
* `monotone_toRat_ofRat`, `abs_toRat_ofRat_sub_le`: order and error.
* `multiply_comm`, `multiply_neg_left`, `divide_neg_left`, `divide_neg_right`: what survives of the
  laws of exact arithmetic.
* `ofRat_correctlyRounded`.
-/

namespace TapeMeasure

namespace Quantity

/-- No multiple of a sixteenth is nearer to `v` than `q`, and one that is equally near is nearer to
zero. -/
structure IsNearest (v : Rat) (q : Quantity) : Prop where
  abs_sub_le (k : Int) : |v - q.toRat| ≤ |v - (k : Rat) / 16|
  eq_or_abs_lt (k : Int) :
    |v - (k : Rat) / 16| = |v - q.toRat| → (k : Rat) / 16 = q.toRat ∨ |(k : Rat) / 16| < |q.toRat|

/-! ## Rounding finds the nearest -/

/-- The nearest quantity is the nearest multiple of a sixteenth. -/
theorem isNearestMultiple_ofRat (v : Rat) : IsNearestMultiple 16 v (ofRat v).toRat := by
  rw [toRat_eq_sixteenths_div, sixteenths_ofRat]
  exact isNearestMultiple_roundHalfAway v (by decide)

theorem isNearest_ofRat (v : Rat) : IsNearest v (ofRat v) where
  abs_sub_le := (isNearestMultiple_ofRat v).abs_sub_le
  eq_or_abs_lt := (isNearestMultiple_ofRat v).eq_or_abs_lt

/-- Only one quantity is nearest. -/
theorem eq_of_isNearest {v : Rat} {p q : Quantity} (hp : IsNearest v p) (hq : IsNearest v q) :
    p = q := by
  have hp' := hp.abs_sub_le q.sixteenths
  have hq' := hq.abs_sub_le p.sixteenths
  rw [← toRat_eq_sixteenths_div] at hp' hq'
  have hp'' := hp.eq_or_abs_lt q.sixteenths
  have hq'' := hq.eq_or_abs_lt p.sixteenths
  rw [← toRat_eq_sixteenths_div] at hp'' hq''
  rcases hp'' (le_antisymm hq' hp') with h | h
  · exact (toRat_injective h).symm
  · rcases hq'' (le_antisymm hp' hq') with h' | h'
    · exact toRat_injective h'
    · exact absurd h (not_lt.mpr h'.le)

theorem eq_ofRat_iff_isNearest {v : Rat} {q : Quantity} : q = ofRat v ↔ IsNearest v q := by
  constructor
  · rintro rfl
    exact isNearest_ofRat v
  · intro hq
    exact eq_of_isNearest hq (isNearest_ofRat v)

/-- Rounding to a quantity keeps the order. -/
theorem monotone_toRat_ofRat : Monotone fun v => (ofRat v).toRat := by
  intro v w hvw
  show (ofRat v).toRat ≤ (ofRat w).toRat
  rw [toRat_eq_sixteenths_div, toRat_eq_sixteenths_div, sixteenths_ofRat, sixteenths_ofRat]
  have hround : roundHalfAway (v * 16) ≤ roundHalfAway (w * 16) :=
    roundHalfAway_mono (by linarith)
  exact div_le_div_of_nonneg_right (Int.cast_le.mpr hround) (by norm_num)

/-- Rounding to a quantity moves a value by a thirty-second of an inch at most. -/
theorem abs_toRat_ofRat_sub_le (v : Rat) : |(ofRat v).toRat - v| ≤ 1 / 32 := by
  have hdistance := abs_sub_div_natCast v (roundHalfAway (v * 16)) (n := 16) (by decide)
  rw [Nat.cast_ofNat] at hdistance
  rw [abs_sub_comm, toRat_eq_sixteenths_div, sixteenths_ofRat, hdistance]
  have := abs_sub_roundHalfAway_le (v * 16)
  linarith

/-! ## Products and quotients -/

theorem multiply_comm (a b : Quantity) : a.multiply b = b.multiply a := by
  rw [multiply, multiply, mul_comm]

theorem multiply_neg_left (a b : Quantity) : a.neg.multiply b = (a.multiply b).neg := by
  rw [multiply, multiply, toRat_neg, neg_mul, ofRat_neg]

theorem divide_of_toRat_ne_zero (a : Quantity) {b : Quantity} (hb : b.toRat ≠ 0) :
    a.divide b = .ok (ofRat (a.toRat / b.toRat)) := by
  rw [divide, if_neg (fun h => hb (isZero_iff_toRat.mp h))]

theorem divide_neg_left (a : Quantity) {b : Quantity} (hb : b.toRat ≠ 0) :
    a.neg.divide b = .ok (ofRat (a.toRat / b.toRat)).neg := by
  rw [divide_of_toRat_ne_zero _ hb, toRat_neg, neg_div, ofRat_neg]

theorem divide_neg_right (a : Quantity) {b : Quantity} (hb : b.toRat ≠ 0) :
    a.divide b.neg = .ok (ofRat (a.toRat / b.toRat)).neg := by
  have hneg : b.neg.toRat ≠ 0 := by
    rw [toRat_neg]
    exact neg_ne_zero.mpr hb
  rw [divide_of_toRat_ne_zero _ hneg, toRat_neg, div_neg, ofRat_neg]

/-- **Correct rounding.** `ofRat` gives the nearest quantity, which is accepted; so it keeps
quantities, the other sign and the order.  Products, quotients and hundredths are exact up to this
one rounding. -/
theorem ofRat_correctlyRounded :
    (∀ (v : Rat) (q : Quantity), q = ofRat v ↔ IsNearest v q) ∧
    (∀ v : Rat, ofParts (Parts.ofSixteenths (roundHalfAway (v * 16))) = .ok (ofRat v)) ∧
    (∀ n : Int, (ofRat ((n : Rat) / 16)).toRat = (n : Rat) / 16) ∧
    (∀ q : Quantity, ofRat q.toRat = q) ∧
    (∀ v : Rat, ofRat (-v) = (ofRat v).neg) ∧
    (Monotone fun v => (ofRat v).toRat) ∧
    (∀ a b : Quantity, a.multiply b = ofRat (a.toRat * b.toRat) ∧
      |(a.multiply b).toRat - a.toRat * b.toRat| ≤ 1 / 32 ∧
      a.multiply b = b.multiply a ∧
      a.neg.multiply b = (a.multiply b).neg ∧ a.multiply b.neg = (a.multiply b).neg) ∧
    (∀ a b : Quantity, b.toRat ≠ 0 → ∃ q : Quantity,
      a.divide b = .ok q ∧ q = ofRat (a.toRat / b.toRat) ∧
      |q.toRat - a.toRat / b.toRat| ≤ 1 / 32 ∧
      a.neg.divide b = .ok q.neg ∧ a.divide b.neg = .ok q.neg) ∧
    ∀ a : Quantity, a.percent = ofRat (a.toRat / 100) ∧
      |a.percent.toRat - a.toRat / 100| ≤ 1 / 32 := by
  refine ⟨fun v q => eq_ofRat_iff_isNearest, fun v => ofParts_ofSixteenths _, ?_, ofRat_toRat,
    ofRat_neg, monotone_toRat_ofRat, ?_, ?_, ?_⟩
  · intro n
    rw [ofRat_eq_of_mul_eq (n := n) (by ring), toRat_ofSixteenths]
  · intro a b
    refine ⟨rfl, abs_toRat_ofRat_sub_le _, multiply_comm a b, multiply_neg_left a b, ?_⟩
    rw [multiply_comm, multiply_neg_left, multiply_comm]
  · intro a b hb
    exact ⟨_, divide_of_toRat_ne_zero a hb, rfl, abs_toRat_ofRat_sub_le _, divide_neg_left a hb,
      divide_neg_right a hb⟩
  · intro a
    exact ⟨rfl, abs_toRat_ofRat_sub_le _⟩

/-- One inch divided by minus three inches: the hypothesis on the divisor can be met. -/
theorem ofRat_correctlyRounded_third :
    (ofSixteenths (-48)).toRat ≠ 0 ∧ ∃ q : Quantity,
      (ofSixteenths 16).divide (ofSixteenths (-48)) = .ok q ∧
      q = ofRat ((ofSixteenths 16).toRat / (ofSixteenths (-48)).toRat) ∧
      |q.toRat - (ofSixteenths 16).toRat / (ofSixteenths (-48)).toRat| ≤ 1 / 32 ∧
      (ofSixteenths 16).neg.divide (ofSixteenths (-48)) = .ok q.neg ∧
      (ofSixteenths 16).divide (ofSixteenths (-48)).neg = .ok q.neg := by
  have hne : (ofSixteenths (-48)).toRat ≠ 0 := by
    rw [toRat_ofSixteenths]
    norm_num
  exact ⟨hne, ofRat_correctlyRounded.2.2.2.2.2.2.2.1 (ofSixteenths 16) (ofSixteenths (-48)) hne⟩

end Quantity

end TapeMeasure
