import TapeMeasure.Decimal.Display
import TapeMeasure.Proofs.Decimal.Value
import TapeMeasure.Proofs.Rounding

/-!
# Rounding to four places

A number is displayed with four places.  The coefficient of the rounded number is computed from
digits: a number without digits in reach gives zero, one with few places is multiplied, and one with
many places is divided.  In each case it is the number of ten-thousandths rounded with a half away
from zero.

* `magnitude_lt_zpow_adjusted`, `adjusted_lt_iff`, `adjusted_le_maxExponent_iff`: what the leading
  digit says about the value.
* `tenThousandths_eq_roundHalfAway`: the coefficient.
* `toRat_fourPlaces`, `isNearestMultiple_fourPlaces`, `magnitude_fourPlaces`: the rounded number,
  which is the number itself if it has four places at most.
* `magnitude_fourPlaces_le`, `adjusted_fourPlaces_le`, `digitCount_fourPlaces_le`: a carry reaches
  the next power of ten at most, and the precision has room for that.
-/

namespace TapeMeasure

open Text

namespace Decimal

/-! ## The leading digit -/

theorem coefficient_lt_pow_digitCount (d : Decimal) : d.coefficient < 10 ^ d.digitCount := by
  rw [digitCount_eq]
  exact (length_digitsOfNat_le_iff (length_digitsOfNat_pos _)).mp le_rfl

/-- A number is smaller than the power of ten above its leading digit. -/
theorem magnitude_lt_zpow_adjusted (d : Decimal) : d.magnitude < (10 : Rat) ^ (d.adjusted + 1) := by
  have hcoefficient : (d.coefficient : Rat) < (10 : Rat) ^ (d.digitCount : Int) := by
    rw [zpow_natCast]
    exact_mod_cast d.coefficient_lt_pow_digitCount
  calc
    d.magnitude < (10 : Rat) ^ (d.digitCount : Int) * (10 : Rat) ^ d.exponent :=
      mul_lt_mul_of_pos_right hcoefficient (zpow_pos (by norm_num) _)
    _ = (10 : Rat) ^ (d.adjusted + 1) := by
      rw [← zpow_add₀ (by norm_num), adjusted]
      congr 1
      omega

theorem magnitude_le_of_adjusted_lt {d : Decimal} {m : Nat} (h : d.adjusted < m) :
    d.magnitude ≤ (10 : Rat) ^ m := by
  rw [← zpow_natCast]
  exact d.magnitude_lt_zpow_adjusted.le.trans (zpow_le_zpow_right₀ (by norm_num) (by omega))

/-- The leading digit of a number with places stands below a power of ten exactly if the number is
smaller than it. -/
theorem adjusted_lt_iff {d : Decimal} {k m : Nat} (hexponent : d.exponent = -(k : Int))
    (hm : 0 < m) : d.adjusted < m ↔ d.magnitude < (10 : Rat) ^ m := by
  have hpow : (0 : Rat) < (10 : Rat) ^ (-(k : Int)) := zpow_pos (by norm_num) _
  have hshift : (10 : Rat) ^ m = ((10 ^ (m + k) : Nat) : Rat) * (10 : Rat) ^ (-(k : Int)) := by
    rw [Nat.cast_pow, Nat.cast_ofNat, ← zpow_natCast, ← zpow_natCast, ← zpow_add₀ (by norm_num)]
    congr 1
    push_cast
    omega
  rw [magnitude, hexponent, hshift, mul_lt_mul_iff_left₀ hpow, Nat.cast_lt,
    ← length_digitsOfNat_le_iff (Nat.add_pos_left hm k), adjusted, hexponent, digitCount_eq]
  omega

/-- A number with places stays within the exponents exactly if it is smaller than the power of ten
behind the last one. -/
theorem adjusted_le_maxExponent_iff {d : Decimal} {k m : Nat} (hexponent : d.exponent = -(k : Int))
    (hm : (m : Int) = maxExponent + 1) :
    d.adjusted ≤ maxExponent ↔ d.magnitude < (10 : Rat) ^ m := by
  have hmax : maxExponent = 999999 := rfl
  rw [← adjusted_lt_iff hexponent (by omega), hm, Int.lt_add_one_iff]

/-! ## Ten-thousandths -/

theorem magnitude_mul_tenThousand (d : Decimal) :
    d.magnitude * 10000 = (d.coefficient : Rat) * (10 : Rat) ^ (d.exponent + displayPlaces) := by
  rw [magnitude, zpow_add₀ (by norm_num), mul_assoc]
  norm_num [displayPlaces]

/-- Digits before the point are not rounded. -/
theorem roundHalfAway_mul_zpow_natCast (n k : Nat) :
    roundHalfAway ((n : Rat) * (10 : Rat) ^ (k : Int)) = (n * 10 ^ k : Nat) := by
  rw [← roundHalfAway_intCast (n * 10 ^ k : Nat)]
  congr 1
  push_cast
  rw [zpow_natCast]

/-- Digits behind the point are dropped with a half going up. -/
theorem roundHalfAway_mul_zpow_neg (n k : Nat) :
    roundHalfAway ((n : Rat) * (10 : Rat) ^ (-(k : Int))) = quotientHalfUp n (10 ^ k) := by
  rw [quotientHalfUp_eq_roundHalfAway n (Nat.pow_pos (by decide)), zpow_neg, zpow_natCast,
    ← div_eq_mul_inv, Nat.cast_pow, Nat.cast_ofNat]

/-- A number whose leading digit stands behind the fifth place has no ten-thousandths. -/
theorem roundHalfAway_eq_zero_of_adjusted {d : Decimal} (h : d.adjusted + 1 ≤ -5) :
    roundHalfAway (d.magnitude * 10000) = 0 := by
  have hlt : d.magnitude < 1 / 100000 := by
    calc
      d.magnitude < (10 : Rat) ^ (d.adjusted + 1) := d.magnitude_lt_zpow_adjusted
      _ ≤ (10 : Rat) ^ (-5 : Int) := zpow_le_zpow_right₀ (by norm_num) h
      _ = 1 / 100000 := by norm_num
  have hnonneg := d.magnitude_nonneg
  rw [roundHalfAway_eq_zero_iff, abs_of_nonneg (by linarith)]
  linarith

/-- The coefficient of the rounded number is the rounded number of ten-thousandths. -/
theorem tenThousandths_eq_roundHalfAway (d : Decimal) :
    (d.tenThousandths : Int) = roundHalfAway (d.magnitude * 10000) := by
  have hplaces : (displayPlaces : Int) = 4 := rfl
  rw [tenThousandths]
  by_cases hzero : d.coefficient = 0
  · rw [if_pos (Or.inl hzero), magnitude_eq_zero_iff.mpr hzero, zero_mul, roundHalfAway_zero]
    rfl
  · by_cases hreach : d.digitCount + (d.exponent + displayPlaces) < 0
    · have hadjusted : d.adjusted + 1 ≤ -5 := by
        rw [adjusted]
        omega
      rw [if_pos (Or.inr hreach), roundHalfAway_eq_zero_of_adjusted hadjusted]
      rfl
    · rw [if_neg (not_or.mpr ⟨hzero, hreach⟩), magnitude_mul_tenThousand]
      by_cases hwhole : 0 ≤ d.exponent + displayPlaces
      · obtain ⟨k, hk⟩ := Int.eq_ofNat_of_zero_le hwhole
        rw [if_pos hwhole, hk, roundHalfAway_mul_zpow_natCast]
        rfl
      · obtain ⟨k, hk⟩ := Int.eq_ofNat_of_zero_le (Int.neg_nonneg_of_nonpos (not_le.mp hwhole).le)
        rw [if_neg hwhole, Int.eq_neg_comm.mp hk.symm, roundHalfAway_mul_zpow_neg, Int.natAbs_neg,
          Int.natAbs_natCast]
        rfl

/-- Rounding does not reach past the next power of ten. -/
theorem tenThousandths_le {d : Decimal} {m : Nat} (h : d.magnitude ≤ (10 : Rat) ^ m) :
    d.tenThousandths ≤ 10 ^ (m + 4) := by
  have hscaled : d.magnitude * 10000 ≤ ((10 ^ (m + 4) : Nat) : Int) := by
    push_cast
    rw [pow_add]
    linarith
  have hround := roundHalfAway_mono hscaled
  rw [← tenThousandths_eq_roundHalfAway, roundHalfAway_intCast] at hround
  exact Int.ofNat_le.mp hround

/-! ## The rounded number -/

/-- The number rounded to four places, however many digits that takes. -/
def fourPlaces (d : Decimal) : Decimal :=
  ⟨d.negative, d.tenThousandths, -displayPlaces⟩

@[simp] theorem negative_fourPlaces (d : Decimal) : d.fourPlaces.negative = d.negative := rfl

@[simp] theorem exponent_fourPlaces (d : Decimal) : d.fourPlaces.exponent = -4 := rfl

theorem magnitude_fourPlaces_eq (d : Decimal) :
    d.fourPlaces.magnitude = (roundHalfAway (d.magnitude * 10000) : Rat) / 10000 := by
  rw [← tenThousandths_eq_roundHalfAway, Int.cast_natCast, magnitude, fourPlaces, zpow_neg,
    zpow_natCast, ← div_eq_mul_inv]
  norm_num [displayPlaces]

/-- Rounding reaches a power of ten at most. -/
theorem magnitude_fourPlaces_le {d : Decimal} {m : Nat} (h : d.magnitude ≤ (10 : Rat) ^ m) :
    d.fourPlaces.magnitude ≤ (10 : Rat) ^ m := by
  have hrounded : ((d.tenThousandths : Nat) : Rat) ≤ (10 : Rat) ^ (m + 4) := by
    exact_mod_cast tenThousandths_le h
  rw [magnitude_fourPlaces_eq, ← tenThousandths_eq_roundHalfAway, Int.cast_natCast,
    div_le_iff₀ (by norm_num)]
  rwa [pow_add, show (10 : Rat) ^ 4 = 10000 by norm_num] at hrounded

/-- A number with at most four places is not rounded. -/
theorem magnitude_fourPlaces {d : Decimal} (h : -4 ≤ d.exponent) :
    d.fourPlaces.magnitude = d.magnitude := by
  have hplaces : (displayPlaces : Int) = 4 := rfl
  obtain ⟨k, hk⟩ := Int.eq_ofNat_of_zero_le (a := d.exponent + displayPlaces) (by omega)
  have hwhole : d.magnitude * 10000 = (d.coefficient : Rat) * (10 : Rat) ^ (k : Int) := by
    rw [magnitude_mul_tenThousand, hk]
  have hround : (roundHalfAway (d.magnitude * 10000) : Rat) = d.magnitude * 10000 := by
    rw [hwhole, roundHalfAway_mul_zpow_natCast, zpow_natCast]
    push_cast
    rfl
  rw [magnitude_fourPlaces_eq, hround, mul_div_cancel_right₀ _ (by norm_num)]

/-- The rounded number is the nearest number of ten-thousandths. -/
theorem toRat_fourPlaces (d : Decimal) :
    d.fourPlaces.toRat = (roundHalfAway (d.toRat * 10000) : Rat) / 10000 := by
  rw [toRat_eq, toRat_eq, magnitude_fourPlaces_eq, negative_fourPlaces]
  cases d.negative with
  | false => simp only [Bool.false_eq_true, if_false]
  | true => simp only [if_true, neg_mul, roundHalfAway_neg, Int.cast_neg, neg_div]

theorem toRat_fourPlaces_of_exponent {d : Decimal} (h : -4 ≤ d.exponent) :
    d.fourPlaces.toRat = d.toRat := by
  rw [toRat_eq, toRat_eq, magnitude_fourPlaces h, negative_fourPlaces]

theorem isNearestMultiple_fourPlaces (d : Decimal) :
    IsNearestMultiple 10000 d.toRat d.fourPlaces.toRat := by
  rw [toRat_fourPlaces]
  exact isNearestMultiple_roundHalfAway d.toRat (by decide)

/-- A carry reaches the next power of ten and not further. -/
theorem adjusted_fourPlaces_le {d : Decimal} {m : Nat} (h : d.magnitude ≤ (10 : Rat) ^ m) :
    d.fourPlaces.adjusted ≤ m := by
  have hlt : d.fourPlaces.coefficient < 10 ^ (m + 5) :=
    (tenThousandths_le h).trans_lt (Nat.pow_lt_pow_right (by decide) (by omega))
  have hcount := digitCount_le_of_lt (Nat.succ_pos _) hlt
  rw [adjusted, exponent_fourPlaces]
  omega

/-- The precision has room for the rounded number, also if it is longer than the number itself. -/
theorem digitCount_fourPlaces_le (d : Decimal) : d.fourPlaces.digitCount ≤ d.displayPrecision := by
  have hbound : d.magnitude ≤ (10 : Rat) ^ ((max d.adjusted 0).toNat + 1) :=
    magnitude_le_of_adjusted_lt (by omega)
  have hadjusted := adjusted_fourPlaces_le hbound
  rw [adjusted, exponent_fourPlaces] at hadjusted
  rw [displayPrecision, displayPlaces]
  omega

end Decimal

end TapeMeasure
