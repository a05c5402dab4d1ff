import Mathlib.Algebra.Field.Rat
import Mathlib.Algebra.Order.Field.Rat
import Mathlib.Tactic.NormNum
import Mathlib.Tactic.Ring
import TapeMeasure.Decimal.Precision
import TapeMeasure.Proofs.Text.Digit

/-!
# Operations that keep the value of a decimal number

A value has many decimals, which differ in the number of places.  Writing more places, adding with
enough precision and taking zeros off the end stay at the same value.

* `magnitude`: the value without the sign; `magnitude_eq_mul_pow` writes it with more places.
* `exists_normalize`, `magnitude_normalize`: taking zeros off, and that none are left.
* `toRat_exactAdd`, `digitCount_le_of_lt`: a sum is exact if the precision has room for its
  digits.
-/

namespace TapeMeasure

open Text

namespace Decimal

/-! ## The magnitude -/

/-- The value without the sign. -/
def magnitude (d : Decimal) : Rat :=
  (d.coefficient : Rat) * (10 : Rat) ^ d.exponent

theorem toRat_eq (d : Decimal) :
    d.toRat = if d.negative then -d.magnitude else d.magnitude := rfl

theorem magnitude_nonneg (d : Decimal) : 0 ≤ d.magnitude :=
  mul_nonneg (Nat.cast_nonneg _) (zpow_nonneg (by norm_num) _)

theorem abs_toRat (d : Decimal) : |d.toRat| = d.magnitude := by
  rw [toRat_eq]
  split
  · rw [abs_neg, abs_of_nonneg d.magnitude_nonneg]
  · rw [abs_of_nonneg d.magnitude_nonneg]

theorem magnitude_eq_zero_iff {d : Decimal} : d.magnitude = 0 ↔ d.coefficient = 0 := by
  have hpow : (10 : Rat) ^ d.exponent ≠ 0 := zpow_ne_zero _ (by norm_num)
  rw [magnitude, mul_eq_zero_iff_right hpow, Nat.cast_eq_zero]

theorem magnitude_ofNat (n : Nat) : (ofNat n).magnitude = n := by
  rw [magnitude, ofNat, zpow_zero, mul_one]

theorem toRat_ofNat (n : Nat) : (ofNat n).toRat = n :=
  magnitude_ofNat n

/-- A power of ten in the coefficient may stand in the exponent. -/
theorem natCast_mul_pow_mul_zpow (n k : Nat) (e : Int) :
    ((n * 10 ^ k : Nat) : Rat) * (10 : Rat) ^ e = (n : Rat) * (10 : Rat) ^ (e + k) := by
  rw [zpow_add₀ (by norm_num), zpow_natCast]
  push_cast
  ring

/-- The value is kept if the coefficient is written with more places. -/
theorem magnitude_eq_mul_pow {d : Decimal} {e : Int} (h : e ≤ d.exponent) :
    d.magnitude = ((d.coefficient * 10 ^ (d.exponent - e).toNat : Nat) : Rat) * (10 : Rat) ^ e := by
  rw [natCast_mul_pow_mul_zpow, magnitude, Int.toNat_of_nonneg (by omega), add_sub_cancel]

/-! ## Zeros at the end -/

theorem exists_stripZeros (c : Nat) (e : Int) :
    ∃ k : Nat, c = (stripZeros c e).1 * 10 ^ k ∧ (stripZeros c e).2 = e + k := by
  induction c, e using stripZeros.induct with
  | case1 c e h ih =>
    obtain ⟨k, hc, he⟩ := ih
    rw [stripZeros, dif_pos h]
    refine ⟨k + 1, ?_, ?_⟩
    · rw [pow_succ, ← mul_assoc, ← hc]
      omega
    · rw [he]
      push_cast
      ring
  | case2 c e h =>
    rw [stripZeros, dif_neg h]
    exact ⟨0, by simp, by simp⟩

theorem stripZeros_mod_ten {c : Nat} (e : Int) (hc : c ≠ 0) : (stripZeros c e).1 % 10 ≠ 0 := by
  induction c, e using stripZeros.induct with
  | case1 c e h ih =>
    rw [stripZeros, dif_pos h]
    exact ih (by omega)
  | case2 c e h =>
    rw [stripZeros, dif_neg h]
    omega

/-- What taking zeros off does to the fields. -/
theorem exists_normalize (d : Decimal) :
    d.normalize.negative = d.negative ∧ ((d.coefficient = 0 ∧ d.normalize = ⟨d.negative, 0, 0⟩) ∨
      ∃ k : Nat, d.coefficient = d.normalize.coefficient * 10 ^ k ∧
        d.normalize.exponent = d.exponent + k ∧ d.normalize.coefficient % 10 ≠ 0) := by
  rw [normalize]
  by_cases hc : d.coefficient = 0
  · rw [if_pos hc]
    refine ⟨rfl, Or.inl ⟨hc, ?_⟩⟩
    rw [hc]
  · rw [if_neg hc]
    obtain ⟨k, hk, he⟩ := exists_stripZeros d.coefficient d.exponent
    exact ⟨rfl, Or.inr ⟨k, hk, he, stripZeros_mod_ten _ hc⟩⟩

/-- Taking zeros off keeps the value. -/
@[simp] theorem magnitude_normalize (d : Decimal) : d.normalize.magnitude = d.magnitude := by
  obtain ⟨-, ⟨hc, hn⟩ | ⟨k, hc, he, -⟩⟩ := d.exists_normalize
  · rw [hn, magnitude, magnitude, hc, Nat.cast_zero, zero_mul, zero_mul]
  · rw [magnitude, magnitude, hc, he, natCast_mul_pow_mul_zpow]

/-! ## Sums -/

theorem coefficientAt_mul_zpow {d : Decimal} {e : Int} (h : e ≤ d.exponent) :
    (d.coefficientAt e : Rat) * (10 : Rat) ^ e = d.toRat := by
  have hpow : Nat.pow 10 (d.exponent - e).toNat = 10 ^ (d.exponent - e).toNat := rfl
  rw [coefficientAt, toRat_eq, magnitude_eq_mul_pow h, hpow]
  cases d.negative with
  | false => simp only [Bool.false_eq_true, if_false, Int.cast_natCast]
  | true =>
    simp only [if_true, Int.cast_neg, Int.cast_natCast]
    ring

/-- A sum is exact before it is rounded. -/
theorem toRat_exactAdd (a b : Decimal) : (exactAdd a b).toRat = a.toRat + b.toRat := by
  have ha := coefficientAt_mul_zpow (d := a) (min_le_left a.exponent b.exponent)
  have hb := coefficientAt_mul_zpow (d := b) (min_le_right a.exponent b.exponent)
  rw [← ha, ← hb, ← add_mul, ← Int.cast_add, toRat_eq, magnitude, exactAdd]
  generalize a.coefficientAt _ + b.coefficientAt _ = sum
  by_cases hsum : sum < 0
  · have habs : ((sum.natAbs : Nat) : Rat) = -(sum : Rat) := by
      rw [← Int.cast_natCast, Int.ofNat_natAbs_of_nonpos hsum.le, Int.cast_neg]
    simp only [hsum, decide_true, if_true, habs]
    ring
  · have habs : ((sum.natAbs : Nat) : Rat) = (sum : Rat) := by
      rw [← Int.cast_natCast, Int.natAbs_of_nonneg (not_lt.mp hsum)]
    simp only [hsum, decide_false, Bool.false_eq_true, if_false, habs]

/-- A coefficient below a power of ten has no more digits than the power. -/
theorem digitCount_le_of_lt {d : Decimal} {k : Nat} (hk : 0 < k) (h : d.coefficient < 10 ^ k) :
    d.digitCount ≤ k := by
  rw [digitCount_eq]
  exact (length_digitsOfNat_le_iff hk).mpr h

end Decimal

end TapeMeasure
