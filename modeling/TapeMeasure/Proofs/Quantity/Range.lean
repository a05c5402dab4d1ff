import TapeMeasure.Proofs.Double.Range
import TapeMeasure.Proofs.Quantity.FeetInches
import TapeMeasure.Proofs.Quantity.TotalInches

/-!
# Which quantities can be displayed

The three displayed forms fail from different sizes on.  A quantity that has a double is far from
the sizes at which the others fail, so only the double decides whether a quantity is displayed, as
long as its decimal form is within the exponents that are calculated with.

* `exists_toDecimal_iff`, `exists_display_of_toDecimal`: a decimal form needs an exponent, and
  nothing else.
* `exists_totalInches`, `exists_feetInches_of_lt`, `exists_toDouble_iff`: which quantities have the
  three forms.
* `eq_integerTooLong_of_feetInches`, `eq_doubleTooLarge_of_toDouble`: how the last two fail.
* `totalInches_exact`.
-/

namespace TapeMeasure

open Text

namespace Quantity

variable {q : Quantity}

/-! ## The three forms -/

/-- There is a decimal form exactly within the exponents. -/
theorem exists_toDecimal_iff {m : Nat} (hm : (m : Int) = Decimal.maxExponent + 1) :
    (∃ d, q.toDecimal = .ok d) ↔ |q.toRat| < (10 : Rat) ^ m := by
  obtain ⟨k, -, hexponent, -, -⟩ := q.exists_unsignedDecimal
  rw [← magnitude_unsignedDecimal, ← Decimal.adjusted_le_maxExponent_iff hexponent hm]
  constructor
  · rintro ⟨d, hd⟩
    exact (toDecimal_eq_ok_iff.mp hd).1
  · intro hadjusted
    exact ⟨_, toDecimal_eq_ok_iff.mpr ⟨hadjusted, rfl⟩⟩

/-- A decimal form is displayed. -/
theorem exists_display_of_toDecimal {d : Decimal} (h : q.toDecimal = .ok d) :
    ∃ text, d.display = .ok text := by
  have hrange := (exists_toDecimal_iff (m := 1000000) rfl).mp ⟨d, h⟩
  rw [Decimal.exists_display_iff (m := 1000000) rfl,
    Decimal.toRat_fourPlaces_of_exponent (exponent_of_toDecimal h), toRat_of_toDecimal h]
  exact hrange

/-- Within the exponents a quantity is displayed as a decimal. -/
theorem exists_totalInches {m : Nat} (hmax : (m : Int) ≤ Decimal.maxExponent + 1)
    (h : |q.toRat| < (10 : Rat) ^ m) : ∃ text, q.totalInches = .ok text := by
  have hlimit : Decimal.maxExponent + 1 = (1000000 : Nat) := rfl
  have hrange : |q.toRat| < (10 : Rat) ^ 1000000 :=
    h.trans_le (pow_le_pow_right₀ (by norm_num) (by omega))
  obtain ⟨d, hd⟩ := (exists_toDecimal_iff rfl).mpr hrange
  obtain ⟨text, htext⟩ := exists_display_of_toDecimal hd
  exact ⟨text, totalInches_eq_ok_iff.mpr ⟨d, hd, htext⟩⟩

theorem whole_le_abs_toRat (q : Quantity) : (q.whole : Rat) ≤ |q.toRat| := by
  rw [q.abs_toRat]
  exact le_add_of_nonneg_right (div_nonneg (Nat.cast_nonneg _) (Nat.cast_nonneg _))

/-- A quantity that has a double can be written in feet and inches. -/
theorem exists_feetInches_of_lt (h : |q.toRat| < (2 : Rat) ^ 1024 - 2 ^ 970) :
    ∃ text, q.feetInches = .ok text := by
  have hrat : (q.whole : Rat) < ((2 ^ 1024 : Nat) : Rat) := by
    rw [Nat.cast_pow, Nat.cast_ofNat]
    calc
      (q.whole : Rat) ≤ |q.toRat| := whole_le_abs_toRat q
      _ < (2 : Rat) ^ 1024 - 2 ^ 970 := h
      _ ≤ (2 : Rat) ^ 1024 := sub_le_self _ (pow_nonneg (by norm_num) _)
  have hlength : 1024 / 3 + 1 ≤ maxIntegerDigits := by decide
  have hpow : 2 ^ 1024 ≤ 10 ^ maxIntegerDigits := by
    refine (two_pow_le_ten_pow 1024).trans ?_
    generalize 1024 / 3 + 1 = digits at hlength ⊢
    exact Nat.pow_le_pow_right (by decide) hlength
  have hfeet : q.whole / 12 < 10 ^ maxIntegerDigits :=
    (Nat.div_le_self _ _).trans_lt ((Nat.cast_lt.mp hrat).trans_le hpow)
  exact exists_feetInches ((length_digitsOfNat_le_iff (by decide)).mpr hfeet)

theorem eq_integerTooLong_of_feetInches {fault : DisplayFault} (h : q.feetInches = .error fault) :
    fault = .integerTooLong := by
  by_cases hdigits : (digitsOfNat (q.whole / 12)).length ≤ maxIntegerDigits
  · obtain ⟨text, htext⟩ := exists_feetInches hdigits
    rw [htext] at h
    cases h
  · rw [feetInches, feetPart, boundedDigits, if_neg hdigits] at h
    split at h
    · cases h
    · split at h
      · cases h
      · cases h
        rfl

section

-- the nearest double of an unknown quantity is not to be computed
attribute [local irreducible] Double.ofRat?

theorem toDouble_eq (q : Quantity) :
    q.toDouble = match Double.ofRat? q.toRat with
      | some value => .ok value
      | none => .error .doubleTooLarge := by
  have hfun : toDouble = fun q => match Double.ofRat? q.toRat with
      | some value => .ok value
      | none => .error .doubleTooLarge := rfl
  exact congrFun hfun q

end

theorem exists_toDouble_iff :
    (∃ decimal, q.toDouble = .ok decimal) ↔ |q.toRat| < (2 : Rat) ^ 1024 - 2 ^ 970 := by
  rw [← not_le, ← Double.ofRat?_eq_none_iff]
  simp only [toDouble_eq]
  generalize Double.ofRat? q.toRat = nearest
  cases nearest with
  | none => exact iff_of_false (fun ⟨_, h⟩ => nomatch h) (not_not_intro rfl)
  | some decimal => exact iff_of_true ⟨decimal, rfl⟩ (fun h => nomatch h)

theorem eq_doubleTooLarge_of_toDouble {fault : DisplayFault} (h : q.toDouble = .error fault) :
    fault = .doubleTooLarge := by
  rw [toDouble_eq] at h
  generalize Double.ofRat? q.toRat = nearest at h
  cases nearest with
  | none =>
    cases h
    rfl
  | some decimal => cases h

/-! ## The exact number of inches -/

/-- **The decimal total loses no digit.** Within the exponents a quantity of any size has a decimal
form, which is exact and is displayed as the one text of the number of inches, and the text is read
as that number. -/
theorem totalInches_exact (hrange : |q.toRat| < (10 : Rat) ^ 1000000) :
    ∃ d text, q.toDecimal = .ok d ∧ d.toRat = q.toRat ∧ d.display = .ok text ∧
      q.totalInches = .ok text ∧ Decimal.IsCanonicalText q.toRat text ∧
      (q.isZero = true → text = ['0']) ∧
      ∃ again, Decimal.parse? text = some again ∧ again.toRat = q.toRat := by
  obtain ⟨d, hd⟩ := (exists_toDecimal_iff rfl).mpr hrange
  obtain ⟨text, hdisplay⟩ := exists_display_of_toDecimal hd
  have htotal : q.totalInches = .ok text := totalInches_eq_ok_iff.mpr ⟨d, hd, hdisplay⟩
  have hcanonical := isCanonicalText_of_totalInches htotal
  refine ⟨d, text, hd, toRat_of_toDecimal hd, hdisplay, htotal, hcanonical, ?_,
    hcanonical.exists_parse?⟩
  intro hzero
  rw [isZero_iff_toRat.mp hzero] at hcanonical
  exact hcanonical.eq Decimal.IsCanonicalText.zero

/-- Thirty-one digits before the point and four places behind it. -/
theorem totalInches_exact_thirtyOneDigits :
    |(ofSixteenths (-(16 * 10 ^ 30 + 15))).toRat| < (10 : Rat) ^ 1000000 ∧
      (ofSixteenths (-(16 * 10 ^ 30 + 15))).totalInches =
        .ok "-1000000000000000000000000000000.9375".toList ∧
      ∃ d, (ofSixteenths (-(16 * 10 ^ 30 + 15))).toDecimal = .ok d ∧
        d.toRat = (ofSixteenths (-(16 * 10 ^ 30 + 15))).toRat := by
  have hrange : |(ofSixteenths (-(16 * 10 ^ 30 + 15))).toRat| < (10 : Rat) ^ 1000000 := by
    calc
      |(ofSixteenths (-(16 * 10 ^ 30 + 15))).toRat| < (10 : Rat) ^ 31 := by
        rw [toRat_ofSixteenths]
        norm_num [abs_lt]
      _ ≤ (10 : Rat) ^ 1000000 := pow_le_pow_right₀ (by norm_num) (by decide)
  obtain ⟨d, text, hd, hvalue, -⟩ := totalInches_exact hrange
  exact ⟨hrange, by decide +kernel, d, hd, hvalue⟩

end Quantity

end TapeMeasure
