import Mathlib.Data.Rat.Cast.Order
import Mathlib.Tactic.FieldSimp
import Mathlib.Tactic.LinearCombination
import Mathlib.Tactic.NormNum
import Mathlib.Tactic.Ring
import TapeMeasure.Quantity.Arithmetic

/-!
# Quantities as counts of sixteenths

A quantity and its signed count of sixteenths determine each other, and the value in inches is the
count divided by sixteen.  What is true of quantities is proved on the counts.

* `magnitude`: the unsigned count; `magnitude_div`, `magnitude_mod`, `gcd_magnitude_mod` read the
  whole inches and the fraction off it.
* `sixteenths_ofSixteenths`, `ofSixteenths_sixteenths`: the two directions.
* `toRat_eq_sixteenths_div`, `toRat_injective`: the value carries the same information.
* `abs_toRat`, `toRat_eq_abs`: the value without and with its sign.
* `isZero_iff`, `sixteenths_neg`: zero and the other sign.
-/

namespace TapeMeasure

namespace Quantity

/-! ## The magnitude -/

/-- The count of sixteenths without the sign. -/
def magnitude (q : Quantity) : Nat :=
  16 * q.whole + q.numerator * (16 / q.denominator)

theorem sixteenths_eq (q : Quantity) :
    q.sixteenths = if q.negative then -(q.magnitude : Int) else q.magnitude := by
  rw [sixteenths, magnitude]

theorem denominator_pos (q : Quantity) : 0 < q.denominator :=
  Nat.pos_of_dvd_of_pos q.denominator_dvd (by decide)

/-- How many sixteenths one part of the fraction has. -/
theorem denominator_mul_div (q : Quantity) : q.denominator * (16 / q.denominator) = 16 :=
  Nat.mul_div_cancel' q.denominator_dvd

theorem sixteen_div_denominator_pos (q : Quantity) : 0 < 16 / q.denominator :=
  Nat.div_pos (Nat.le_of_dvd (by decide) q.denominator_dvd) q.denominator_pos

theorem numerator_mul_lt (q : Quantity) : q.numerator * (16 / q.denominator) < 16 := by
  calc
    q.numerator * (16 / q.denominator) < q.denominator * (16 / q.denominator) :=
      Nat.mul_lt_mul_of_pos_right q.numerator_lt q.sixteen_div_denominator_pos
    _ = 16 := q.denominator_mul_div

theorem magnitude_div (q : Quantity) : q.magnitude / 16 = q.whole := by
  have := q.numerator_mul_lt
  rw [magnitude]
  omega

theorem magnitude_mod (q : Quantity) : q.magnitude % 16 = q.numerator * (16 / q.denominator) := by
  have := q.numerator_mul_lt
  rw [magnitude]
  omega

/-- The fraction is reduced, so what it has in common with sixteen is what a part of it counts. -/
theorem gcd_magnitude_mod (q : Quantity) : Nat.gcd (q.magnitude % 16) 16 = 16 / q.denominator := by
  have hgcd : Nat.gcd (q.numerator * (16 / q.denominator)) (q.denominator * (16 / q.denominator)) =
      16 / q.denominator := by
    rw [Nat.gcd_mul_right, q.reduced, one_mul]
  rwa [← magnitude_mod, denominator_mul_div] at hgcd

theorem magnitude_eq_zero_iff (q : Quantity) :
    q.magnitude = 0 ↔ q.whole = 0 ∧ q.numerator = 0 := by
  have hpos := q.sixteen_div_denominator_pos
  rw [magnitude, Nat.add_eq_zero_iff, Nat.mul_eq_zero, Nat.mul_eq_zero]
  omega

theorem magnitude_ne_zero_of_negative {q : Quantity} (h : q.negative = true) :
    q.magnitude ≠ 0 := by
  rw [Ne, magnitude_eq_zero_iff]
  have := q.ne_zero_of_negative h
  omega

/-! ## The two directions -/

/-- The magnitude of a quantity that was built from a magnitude. -/
theorem magnitude_ofMagnitude (negative : Bool) (n : Nat) :
    (ofMagnitude negative n).magnitude = n := by
  have hdvd : Nat.gcd (n % 16) 16 ∣ 16 := Nat.gcd_dvd_right _ _
  have hpart : 16 / (16 / Nat.gcd (n % 16) 16) = Nat.gcd (n % 16) 16 :=
    Nat.div_div_self hdvd (by decide)
  have hfraction : n % 16 / Nat.gcd (n % 16) 16 * Nat.gcd (n % 16) 16 = n % 16 :=
    Nat.div_mul_cancel (Nat.gcd_dvd_left _ _)
  show 16 * (n / 16) + n % 16 / Nat.gcd (n % 16) 16 * (16 / (16 / Nat.gcd (n % 16) 16)) = n
  rw [hpart, hfraction]
  exact Nat.div_add_mod n 16

/-- A quantity is built again from its sign and magnitude. -/
theorem ofMagnitude_magnitude (q : Quantity) : ofMagnitude q.negative q.magnitude = q := by
  have hsign : (q.negative && q.magnitude != 0) = q.negative := by
    cases h : q.negative with
    | false => rfl
    | true => simp [magnitude_ne_zero_of_negative h]
  have hnumerator : q.numerator * (16 / q.denominator) / (16 / q.denominator) = q.numerator :=
    Nat.mul_div_cancel _ q.sixteen_div_denominator_pos
  have hdenominator : 16 / (16 / q.denominator) = q.denominator :=
    Nat.div_div_self q.denominator_dvd (by decide)
  apply parts_injective
  simp only [parts, ofMagnitude, hsign, magnitude_div]
  rw [gcd_magnitude_mod, magnitude_mod, hnumerator, hdenominator]

/-- A count of sixteenths is counted again. -/
@[simp] theorem sixteenths_ofSixteenths (n : Int) : (ofSixteenths n).sixteenths = n := by
  have hnegative : (ofSixteenths n).negative = decide (n < 0) := by
    show (decide (n < 0) && n.natAbs != 0) = decide (n < 0)
    by_cases hn : n < 0
    · simp [hn, hn.ne]
    · simp [hn]
  rw [sixteenths_eq, hnegative, ofSixteenths, magnitude_ofMagnitude]
  by_cases hn : n < 0
  · rw [if_pos (decide_eq_true hn)]
    omega
  · rw [if_neg (by simpa using hn)]
    omega

/-- A quantity is built again from its count. -/
@[simp] theorem ofSixteenths_sixteenths (q : Quantity) : ofSixteenths q.sixteenths = q := by
  have hsign : decide (q.sixteenths < 0) = q.negative := by
    rw [sixteenths_eq]
    cases h : q.negative with
    | false => simp
    | true =>
      have := magnitude_ne_zero_of_negative h
      simp only [if_true, decide_eq_true_eq]
      omega
  have hmagnitude : q.sixteenths.natAbs = q.magnitude := by
    rw [sixteenths_eq]
    split <;> omega
  rw [ofSixteenths, hsign, hmagnitude, ofMagnitude_magnitude]

theorem sixteenths_injective {p q : Quantity} (h : p.sixteenths = q.sixteenths) : p = q := by
  rw [← ofSixteenths_sixteenths p, h, ofSixteenths_sixteenths]

/-! ## The value in inches -/

/-- The value in inches is the count divided by sixteen. -/
theorem toRat_eq_sixteenths_div (q : Quantity) : q.toRat = (q.sixteenths : Rat) / 16 := by
  have hpart : (q.denominator : Rat) * ((16 / q.denominator : Nat) : Rat) = 16 := by
    exact_mod_cast q.denominator_mul_div
  have hne : (q.denominator : Rat) ≠ 0 := Nat.cast_ne_zero.mpr q.denominator_pos.ne'
  have hmagnitude : (q.whole : Rat) + q.numerator / q.denominator = (q.magnitude : Rat) / 16 := by
    rw [magnitude]
    push_cast
    field_simp
    linear_combination -(q.numerator : Rat) * hpart
  rw [toRat, sixteenths_eq]
  simp only [hmagnitude]
  cases q.negative with
  | false => simp
  | true =>
    simp only [if_true]
    push_cast
    ring

theorem sixteenths_eq_toRat_mul (q : Quantity) : (q.sixteenths : Rat) = q.toRat * 16 := by
  rw [toRat_eq_sixteenths_div]
  ring

@[simp] theorem toRat_ofSixteenths (n : Int) : (ofSixteenths n).toRat = (n : Rat) / 16 := by
  rw [toRat_eq_sixteenths_div, sixteenths_ofSixteenths]

theorem abs_toRat (q : Quantity) :
    |q.toRat| = (q.whole : Rat) + (q.numerator : Rat) / (q.denominator : Rat) := by
  have hnonneg : (0 : Rat) ≤ (q.whole : Rat) + (q.numerator : Rat) / (q.denominator : Rat) :=
    add_nonneg (Nat.cast_nonneg _) (div_nonneg (Nat.cast_nonneg _) (Nat.cast_nonneg _))
  rw [toRat]
  split
  · rw [abs_neg, abs_of_nonneg hnonneg]
  · rw [abs_of_nonneg hnonneg]

/-- The value is its magnitude with the sign. -/
theorem toRat_eq_abs (q : Quantity) :
    q.toRat = if q.negative then -|q.toRat| else |q.toRat| := by
  rw [abs_toRat, toRat]

/-- Quantities with the same value are equal in all their parts. -/
theorem toRat_injective {p q : Quantity} (h : p.toRat = q.toRat) : p = q := by
  apply sixteenths_injective
  have : (p.sixteenths : Rat) = q.sixteenths := by
    rw [sixteenths_eq_toRat_mul, sixteenths_eq_toRat_mul, h]
  exact_mod_cast this

/-! ## Zero and the other sign -/

theorem isZero_iff {q : Quantity} : q.isZero = true ↔ q.sixteenths = 0 := by
  rw [isZero, Bool.and_eq_true, beq_iff_eq, beq_iff_eq, ← magnitude_eq_zero_iff, sixteenths_eq]
  split <;> omega

theorem isZero_iff_toRat {q : Quantity} : q.isZero = true ↔ q.toRat = 0 := by
  rw [isZero_iff, toRat_eq_sixteenths_div, div_eq_zero_iff]
  norm_num

/-- A quantity has a sign exactly if its value is negative. -/
theorem negative_eq_decide (q : Quantity) : q.negative = decide (q.toRat < 0) := by
  have hvalue := q.toRat_eq_abs
  cases hs : q.negative with
  | false =>
    rw [hs, if_neg Bool.false_ne_true] at hvalue
    rw [hvalue]
    exact (decide_eq_false (not_lt.mpr (abs_nonneg _))).symm
  | true =>
    have hne : q.toRat ≠ 0 := by
      intro hzero
      have hw := isZero_iff_toRat.mpr hzero
      rw [isZero, Bool.and_eq_true, beq_iff_eq, beq_iff_eq, ← magnitude_eq_zero_iff] at hw
      exact magnitude_ne_zero_of_negative hs hw
    rw [hs, if_pos rfl] at hvalue
    rw [hvalue]
    exact (decide_eq_true (neg_neg_of_pos (abs_pos.mpr hne))).symm

@[simp] theorem sixteenths_neg (q : Quantity) : q.neg.sixteenths = -q.sixteenths := by
  have hmagnitude : q.neg.magnitude = q.magnitude := rfl
  have hnegative : q.neg.negative = (!q.negative && !q.isZero) := rfl
  have hzero : q.isZero = true ↔ q.magnitude = 0 := by
    rw [isZero, Bool.and_eq_true, beq_iff_eq, beq_iff_eq, magnitude_eq_zero_iff]
  rw [sixteenths_eq, sixteenths_eq, hmagnitude, hnegative]
  cases hs : q.negative with
  | true => simp
  | false =>
    cases hz : q.isZero with
    | true => simp [hzero.mp hz]
    | false => simp

@[simp] theorem toRat_neg (q : Quantity) : q.neg.toRat = -q.toRat := by
  rw [toRat_eq_sixteenths_div, toRat_eq_sixteenths_div, sixteenths_neg]
  push_cast
  ring

end Quantity

end TapeMeasure
