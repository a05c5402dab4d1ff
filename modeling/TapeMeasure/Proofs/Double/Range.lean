import Mathlib.Algebra.Order.Field.Rat
import Mathlib.Algebra.Order.Ring.Abs
import Mathlib.Algebra.Order.Ring.Cast
import Mathlib.Data.Rat.Lemmas
import TapeMeasure.Proofs.Double.Rounding

/-!
# Which rational numbers have a double

A rational number has a nearest double exactly if its magnitude lies below the middle between the
largest double and the next power of two, `2 ^ 1024 - 2 ^ 970`; from there on rounding would need a
larger exponent.

* `abs_lt_natCast_iff`: a bound on a rational number, in terms of its numerator and denominator.
* `magnitudeOfRat_lt_unitsLimit_iff`, `ofRat?_eq_none_iff`: the bound.
-/

namespace TapeMeasure

theorem abs_lt_natCast_iff {v : Rat} {b : Nat} : |v| < b ↔ v.num.natAbs < b * v.den := by
  have hden : (0 : Rat) < v.den := Nat.cast_pos.mpr v.den_pos
  have hnum : |v| * v.den = (v.num.natAbs : Rat) := by
    rw [Nat.cast_natAbs, Int.cast_abs, ← Rat.mul_den_eq_num, abs_mul, abs_of_pos hden]
  rw [← mul_lt_mul_iff_left₀ hden, hnum, ← Nat.cast_mul, Nat.cast_lt]

namespace Double

theorem unitsPerOne_eq : unitsPerOne = 2 ^ 1074 := by
  unfold unitsPerOne
  -- the power is not to be computed
  generalize 1074 = e
  exact Nat.pow_eq

/-- Half a step below a power of two, as a whole number. -/
theorem natCast_halfStepBelow (k : Nat) :
    (((2 ^ 54 - 1) * 2 ^ k : Nat) : Rat) = (2 : Rat) ^ (k + 54) - 2 ^ k := by
  rw [Nat.cast_mul, Nat.cast_sub (Nat.one_le_two_pow), Nat.cast_pow, Nat.cast_pow, pow_add,
    Nat.cast_ofNat, Nat.cast_one]
  ring

/-- A rational number is not too large after rounding if its magnitude is below the bound. -/
theorem magnitudeOfRat_lt_unitsLimit_iff {v : Rat} :
    magnitudeOfRat v < unitsLimit ↔ |v| < (2 : Rat) ^ 1024 - 2 ^ 970 := by
  have hbound := natCast_halfStepBelow 970
  rw [show 970 + 54 = 1024 from rfl] at hbound
  have hpow := pow_add 2 970 1074
  rw [show 970 + 1074 = 2044 from rfl] at hpow
  have hswap : (2 ^ 54 - 1) * (2 ^ 970 * 2 ^ 1074) * v.den =
      (2 ^ 54 - 1) * 2 ^ 970 * v.den * 2 ^ 1074 := by
    rw [← Nat.mul_assoc, Nat.mul_right_comm]
  rw [← hbound, abs_lt_natCast_iff, magnitudeOfRat, roundUnits_lt_unitsLimit_iff v.den_pos,
    unitsPerOne_eq, hpow, hswap, Nat.mul_lt_mul_right (Nat.two_pow_pos 1074)]

theorem ofRat?_eq_none_iff {v : Rat} : ofRat? v = none ↔ (2 : Rat) ^ 1024 - 2 ^ 970 ≤ |v| := by
  rw [← not_lt, ← magnitudeOfRat_lt_unitsLimit_iff, ofRat?]
  split
  · rename_i hfits
    exact iff_of_false (fun h => nomatch h) (not_not_intro hfits)
  · rename_i hlarge
    exact iff_of_true rfl hlarge

end Double

end TapeMeasure
