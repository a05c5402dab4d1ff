import TapeMeasure.Proofs.Quantity.Sixteenths
import TapeMeasure.Proofs.Rounding

/-!
# What arithmetic does to the counts

Sums and differences are taken over a common denominator, with a rounding on the way there and one
on the way back.  Neither of them changes anything (`numeratorOver_eq`, `ofRat_toRat`), so a sum
adds the counts of sixteenths.  The other operations round once.

* `sixteenths_ofRat`, `ofRat_eq_of_mul_eq`: what rounding to a quantity does to the count.
* `toRat_add`, `toRat_subtract`: sums and differences are exact.
* `ofRat_neg`: rounding keeps the other sign.
-/

namespace TapeMeasure

namespace Quantity

/-! ## Rounding to a quantity -/

@[simp] theorem sixteenths_ofRat (v : Rat) : (ofRat v).sixteenths = roundHalfAway (v * 16) := by
  rw [ofRat, sixteenths_ofSixteenths]

/-- A value that is a whole number of sixteenths is not rounded. -/
theorem ofRat_eq_of_mul_eq {v : Rat} {n : Int} (h : v * 16 = n) : ofRat v = ofSixteenths n := by
  rw [ofRat, h, roundHalfAway_intCast]

/-- The value of a quantity is not rounded. -/
@[simp] theorem ofRat_toRat (q : Quantity) : ofRat q.toRat = q := by
  rw [ofRat_eq_of_mul_eq (sixteenths_eq_toRat_mul q).symm, ofSixteenths_sixteenths]

theorem ofRat_neg (v : Rat) : ofRat (-v) = (ofRat v).neg := by
  apply sixteenths_injective
  rw [sixteenths_neg, sixteenths_ofRat, sixteenths_ofRat, neg_mul, roundHalfAway_neg]

/-! ## The common denominator -/

theorem commonDenominator_eq_lcm (a b : Quantity) :
    commonDenominator a b = Nat.lcm a.denominator b.denominator := by
  have hdvd : Nat.lcm a.denominator b.denominator ∣ 16 :=
    Nat.lcm_dvd a.denominator_dvd b.denominator_dvd
  rw [commonDenominator]
  exact min_eq_left (Nat.le_of_dvd (by decide) hdvd)

theorem denominator_dvd_common_left (a b : Quantity) : a.denominator ∣ commonDenominator a b := by
  rw [commonDenominator_eq_lcm]
  exact Nat.dvd_lcm_left _ _

theorem denominator_dvd_common_right (a b : Quantity) : b.denominator ∣ commonDenominator a b := by
  rw [commonDenominator_eq_lcm]
  exact Nat.dvd_lcm_right _ _

theorem commonDenominator_pos (a b : Quantity) : 0 < commonDenominator a b := by
  rw [commonDenominator_eq_lcm]
  exact Nat.lcm_pos a.denominator_pos b.denominator_pos

/-- Over a multiple of its denominator a quantity has a whole numerator, which rounding keeps. -/
theorem numeratorOver_eq {d : Nat} {q : Quantity} (h : q.denominator ∣ d) :
    (q.numeratorOver d : Rat) = q.toRat * d := by
  obtain ⟨k, rfl⟩ := h
  have hne : (q.denominator : Rat) ≠ 0 := Nat.cast_ne_zero.mpr q.denominator_pos.ne'
  have hmagnitude : ((q.whole : Rat) + q.numerator / q.denominator) * (q.denominator * k : Nat) =
      ((q.whole * (q.denominator * k) + q.numerator * k : Nat) : Rat) := by
    push_cast
    field_simp
  obtain ⟨n, hn⟩ : ∃ n : Int, q.toRat * (q.denominator * k : Nat) = n := by
    rw [toRat]
    cases q.negative with
    | false =>
      refine ⟨(q.whole * (q.denominator * k) + q.numerator * k : Nat), ?_⟩
      rw [if_neg (by decide), hmagnitude, Int.cast_natCast]
    | true =>
      refine ⟨-(q.whole * (q.denominator * k) + q.numerator * k : Nat), ?_⟩
      rw [if_pos rfl, neg_mul, hmagnitude, Int.cast_neg, Int.cast_natCast]
  rw [numeratorOver, hn, roundHalfAway_intCast]

/-! ## Sums and differences -/

theorem add_eq_ofRat (a b : Quantity) : a.add b = ofRat (a.toRat + b.toRat) := by
  have hne : (commonDenominator a b : Rat) ≠ 0 :=
    Nat.cast_ne_zero.mpr (commonDenominator_pos a b).ne'
  rw [add, Int.cast_add, numeratorOver_eq (denominator_dvd_common_left a b),
    numeratorOver_eq (denominator_dvd_common_right a b), ← add_mul, mul_div_cancel_right₀ _ hne]

/-- A sum adds the counts of sixteenths. -/
@[simp] theorem sixteenths_add (a b : Quantity) :
    (a.add b).sixteenths = a.sixteenths + b.sixteenths := by
  have hsum : (a.toRat + b.toRat) * 16 = ((a.sixteenths + b.sixteenths : Int) : Rat) := by
    rw [Int.cast_add, sixteenths_eq_toRat_mul, sixteenths_eq_toRat_mul, add_mul]
  rw [add_eq_ofRat, ofRat_eq_of_mul_eq hsum, sixteenths_ofSixteenths]

@[simp] theorem toRat_add (a b : Quantity) : (a.add b).toRat = a.toRat + b.toRat := by
  rw [toRat_eq_sixteenths_div, sixteenths_add, Int.cast_add, add_div, ← toRat_eq_sixteenths_div,
    ← toRat_eq_sixteenths_div]

/-- A difference is the sum with the other sign. -/
theorem subtract_eq_add_neg (a b : Quantity) : a.subtract b = a.add b.neg := by
  have hne : (commonDenominator a b : Rat) ≠ 0 :=
    Nat.cast_ne_zero.mpr (commonDenominator_pos a b).ne'
  rw [add_eq_ofRat, toRat_neg, ← sub_eq_add_neg, subtract, Int.cast_sub,
    numeratorOver_eq (denominator_dvd_common_left a b),
    numeratorOver_eq (denominator_dvd_common_right a b), ← sub_mul, mul_div_cancel_right₀ _ hne]

@[simp] theorem toRat_subtract (a b : Quantity) :
    (a.subtract b).toRat = a.toRat - b.toRat := by
  rw [subtract_eq_add_neg, toRat_add, toRat_neg, sub_eq_add_neg]

end Quantity

end TapeMeasure
