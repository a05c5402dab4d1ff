import TapeMeasure.Proofs.Decimal.FourPlaces
import TapeMeasure.Proofs.Except
import TapeMeasure.Proofs.Token.Canonical

/-!
# Displayed decimals

A displayed number is rounded to four places and written without a superfluous character.  The
precision is computed from the leading digit and has room for a carry, so the only numbers that
cannot be displayed are those whose rounded value needs too large an exponent.

* `IsCanonicalText`: the one text of a number with four places at most.
* `IsCanonicalText.eq`, `IsCanonicalText.exists_parse?`: the number determines the text, and the
  text the number.
* `isCanonicalText_of_display`, `exists_display_iff`: what is displayed, and when.
* `display_correctlyRounded`: both for all numbers; `display_nines` is a number that cannot be
  displayed.
-/

namespace TapeMeasure

open Token

namespace Decimal

/-! ## The text of a number -/

/-- A canonical numeral for the magnitude, with a minus sign in front exactly if the number is
negative. -/
def IsCanonicalText (r : Rat) (text : List Char) : Prop :=
  ∃ n : Numeral, n.Canonical ∧ n.value.magnitude = |r| ∧ text = signed (decide (r < 0)) n.text

namespace IsCanonicalText

variable {r : Rat} {text text' : List Char}

/-- A number has one text at most. -/
theorem eq (h : IsCanonicalText r text) (h' : IsCanonicalText r text') : text = text' := by
  obtain ⟨n, hn, hmagnitude, rfl⟩ := h
  obtain ⟨n', hn', hmagnitude', rfl⟩ := h'
  rw [hn.eq_of_magnitude hn' (hmagnitude.trans hmagnitude'.symm)]

theorem zero : IsCanonicalText 0 ['0'] := by
  refine ⟨Numeral.ofNat 0, Numeral.canonical_zero, ?_, ?_⟩
  · rw [Numeral.magnitude_ofNat, Nat.cast_zero, abs_zero]
  · rw [decide_eq_false (lt_irrefl 0), signed_false]
    rfl

/-- The text is read as the number. -/
theorem exists_parse? (h : IsCanonicalText r text) :
    ∃ d, parse? text = some d ∧ d.toRat = r := by
  obtain ⟨n, hn, hmagnitude, rfl⟩ := h
  refine ⟨n.value.withSign (decide (r < 0)), Numeral.parse?_signed hn.toProper _, ?_⟩
  have hsigned : (n.value.withSign (decide (r < 0))).magnitude = |r| := hmagnitude
  rw [toRat_eq, hsigned]
  by_cases hr : r < 0
  · rw [show (n.value.withSign (decide (r < 0))).negative = true from decide_eq_true hr, if_pos rfl,
      abs_of_neg hr, neg_neg]
  · rw [show (n.value.withSign (decide (r < 0))).negative = false from decide_eq_false hr,
      if_neg Bool.false_ne_true, abs_of_nonneg (not_lt.mp hr)]

end IsCanonicalText

/-! ## Displaying -/

/-- A number that is not zero has the sign that is written. -/
theorem negative_eq_decide {d : Decimal} (h : d.magnitude ≠ 0) :
    d.negative = decide (d.toRat < 0) := by
  have hpos : 0 < d.magnitude := lt_of_le_of_ne d.magnitude_nonneg h.symm
  rw [toRat_eq]
  cases d.negative with
  | false => exact (decide_eq_false (not_lt.mpr hpos.le)).symm
  | true => exact (decide_eq_true (neg_neg_of_pos hpos)).symm

section

variable {v : Decimal} {text : List Char}

/-- Only the exponent of the rounded number decides whether it is displayed. -/
theorem display_eq (v : Decimal) :
    v.display = if v.fourPlaces.adjusted ≤ maxExponent then
        .ok (if v.fourPlaces.normalize.coefficient = 0 then ['0'] else v.fourPlaces.normalize.plain)
      else .error .tooManyDigits := by
  have hprecision := v.digitCount_fourPlaces_le
  have hrounded : v.toFourPlaces v.displayPrecision =
      if v.displayPrecision < v.fourPlaces.digitCount ∨ maxExponent < v.fourPlaces.adjusted then
        .error .tooManyDigits
      else .ok v.fourPlaces := rfl
  rw [display, hrounded]
  by_cases hadjusted : v.fourPlaces.adjusted ≤ maxExponent
  · rw [if_neg (not_or.mpr ⟨not_lt.mpr hprecision, not_lt.mpr hadjusted⟩), if_pos hadjusted]
    rfl
  · rw [if_pos (Or.inr (not_le.mp hadjusted)), if_neg hadjusted]
    rfl

theorem display_eq_ok_iff : v.display = .ok text ↔ v.fourPlaces.adjusted ≤ maxExponent ∧
    (if v.fourPlaces.normalize.coefficient = 0 then ['0'] else v.fourPlaces.normalize.plain) =
      text := by
  rw [display_eq]
  by_cases hadjusted : v.fourPlaces.adjusted ≤ maxExponent
  · rw [if_pos hadjusted, Except.ok.injEq, and_iff_right hadjusted]
  · rw [if_neg hadjusted]
    exact iff_of_false nofun fun h => hadjusted h.1

/-- What is displayed is the text of the rounded number. -/
theorem isCanonicalText_of_display (h : v.display = .ok text) :
    IsCanonicalText v.fourPlaces.toRat text := by
  obtain ⟨-, rfl⟩ := display_eq_ok_iff.mp h
  have hmagnitude := magnitude_normalize v.fourPlaces
  obtain ⟨hnegative, ⟨hzero, hnormal⟩ | ⟨k, -, hexponent, hlast⟩⟩ := v.fourPlaces.exists_normalize
  · have hvalue : v.fourPlaces.toRat = 0 := by
      rw [← abs_eq_zero, abs_toRat, magnitude_eq_zero_iff, hzero]
    rw [hvalue, hnormal, if_pos rfl]
    exact IsCanonicalText.zero
  · have hcoefficient : v.fourPlaces.normalize.coefficient ≠ 0 := fun hzero =>
      hlast (by rw [hzero])
    have hplaces : -4 ≤ v.fourPlaces.normalize.exponent := by
      rw [hexponent, exponent_fourPlaces]
      omega
    have hsign : v.fourPlaces.normalize.negative = decide (v.fourPlaces.toRat < 0) := by
      rw [hnegative, negative_eq_decide]
      rwa [← hmagnitude, Ne, magnitude_eq_zero_iff]
    rw [if_neg hcoefficient]
    refine ⟨Numeral.ofDecimal v.fourPlaces.normalize, Numeral.canonical_ofDecimal hplaces hlast,
      ?_, ?_⟩
    · rw [Numeral.magnitude_ofDecimal, hmagnitude, abs_toRat]
    · rw [plain, Numeral.text_ofDecimal, hsign]

theorem exists_display_iff {m : Nat} (hm : (m : Int) = maxExponent + 1) :
    (∃ text, v.display = .ok text) ↔ |v.fourPlaces.toRat| < (10 : Rat) ^ m := by
  rw [abs_toRat, ← adjusted_le_maxExponent_iff (k := 4) rfl hm]
  constructor
  · rintro ⟨text, htext⟩
    exact (display_eq_ok_iff.mp htext).1
  · intro hadjusted
    exact ⟨_, display_eq_ok_iff.mpr ⟨hadjusted, rfl⟩⟩

/-- Below the last exponent no number is rounded out of the exponents. -/
theorem exists_display_of_adjusted_lt (h : v.adjusted < maxExponent) :
    ∃ text, v.display = .ok text := by
  obtain ⟨m, hm⟩ : ∃ m : Nat, maxExponent = m := ⟨999999, rfl⟩
  have hbound : v.magnitude ≤ (10 : Rat) ^ m := magnitude_le_of_adjusted_lt (hm ▸ h)
  exact ⟨_, display_eq_ok_iff.mpr ⟨hm ▸ adjusted_fourPlaces_le hbound, rfl⟩⟩

/-- Within the exponents no number is rounded past the power of ten behind them. -/
theorem abs_toRat_fourPlaces_le {m : Nat} (h : v.adjusted < m) :
    |v.fourPlaces.toRat| ≤ (10 : Rat) ^ m := by
  rw [abs_toRat]
  exact magnitude_fourPlaces_le (magnitude_le_of_adjusted_lt h)

/-- A number that equals a displayed one is displayed in the same way. -/
theorem display_of_toRat_eq {d : Decimal} (h : v.display = .ok text)
    (hd : d.toRat = v.fourPlaces.toRat) : d.display = .ok text := by
  have hsame : d.fourPlaces.toRat = v.fourPlaces.toRat := by
    obtain ⟨k, hk⟩ := v.isNearestMultiple_fourPlaces.exists_eq
    have hwhole : d.toRat * 10000 = k := by
      rw [hd, hk, Nat.cast_ofNat, div_mul_cancel₀ _ (by norm_num)]
    rw [toRat_fourPlaces, hwhole, roundHalfAway_intCast, hk, Nat.cast_ofNat]
  have hrange := (exists_display_iff (m := 1000000) rfl).mp ⟨text, h⟩
  obtain ⟨text', htext'⟩ := (exists_display_iff (v := d) (m := 1000000) rfl).mpr (hsame ▸ hrange)
  have hcanonical := isCanonicalText_of_display htext'
  rw [hsame] at hcanonical
  rw [htext', hcanonical.eq (isCanonicalText_of_display h)]

end

/-- **Displayed decimals.** A number is displayed as the nearest number of ten-thousandths, a half
going away from zero, and in the one text of that number, which is displayed again as itself.  It is
displayed exactly if the rounded number stays within the exponents; of the numbers within the
exponents only those with the last exponent can fail, by a carry to the next power of ten. -/
theorem display_correctlyRounded (v : Decimal) :
    ∃ r : Rat, IsNearestMultiple 10000 v.toRat r ∧
      ((∃ text, v.display = .ok text) ↔ |r| < (10 : Rat) ^ 1000000) ∧
      (v.adjusted < maxExponent → ∃ text, v.display = .ok text) ∧
      (v.adjusted ≤ maxExponent → |r| ≤ (10 : Rat) ^ 1000000) ∧
      ∀ text, v.display = .ok text → IsCanonicalText r text ∧ (r = 0 → text = ['0']) ∧
        ∃ d, parse? text = some d ∧ d.toRat = r ∧ d.display = .ok text := by
  refine ⟨v.fourPlaces.toRat, v.isNearestMultiple_fourPlaces, exists_display_iff rfl,
    exists_display_of_adjusted_lt, fun h => abs_toRat_fourPlaces_le (Int.lt_add_one_of_le h), ?_⟩
  intro text htext
  have hcanonical := isCanonicalText_of_display htext
  obtain ⟨d, hparse, hvalue⟩ := hcanonical.exists_parse?
  refine ⟨hcanonical, ?_, d, hparse, hvalue, display_of_toRat_eq htext hvalue⟩
  intro hzero
  rw [hzero] at hcanonical
  exact hcanonical.eq IsCanonicalText.zero

/-- A carry goes through all digits and leaves only zeros behind the first one. -/
theorem display_correctlyRounded_carry :
    (⟨true, 999999995, -5⟩ : Decimal).display = .ok "-10000".toList ∧
      ∃ r d, IsNearestMultiple 10000 (⟨true, 999999995, -5⟩ : Decimal).toRat r ∧
        IsCanonicalText r "-10000".toList ∧ parse? "-10000".toList = some d ∧ d.toRat = r ∧
        d.display = .ok "-10000".toList := by
  have hdisplay : (⟨true, 999999995, -5⟩ : Decimal).display = .ok "-10000".toList := by
    decide +kernel
  obtain ⟨r, hnearest, -, -, -, htext⟩ := display_correctlyRounded ⟨true, 999999995, -5⟩
  obtain ⟨hcanonical, -, d, hparse, hvalue, hagain⟩ := htext _ hdisplay
  exact ⟨hdisplay, r, d, hnearest, hcanonical, hparse, hvalue, hagain⟩

/-- So many nines before the point, and `9999` and a five behind it. -/
def nines (places : Nat) : Decimal :=
  ⟨false, 10 ^ (places + 5) - 5, -5⟩

/-- The carry goes through all nines. -/
theorem magnitude_fourPlaces_nines (places : Nat) :
    (nines places).fourPlaces.magnitude = (10 : Rat) ^ places := by
  have hle : 5 ≤ 10 ^ (places + 5) :=
    (by decide : 5 ≤ 10 ^ 1).trans (Nat.pow_le_pow_right (by decide) (by omega))
  have hscaled : (nines places).magnitude * 10000 + 1 / 2 = ((10 ^ (places + 4) : Nat) : Int) := by
    rw [magnitude_mul_tenThousand, nines, displayPlaces, Nat.cast_sub hle]
    push_cast
    rw [pow_succ _ (places + 4)]
    norm_num
    ring
  have hnonneg : 0 ≤ (nines places).magnitude * 10000 :=
    mul_nonneg (magnitude_nonneg _) (by norm_num)
  rw [magnitude_fourPlaces_eq, roundHalfAway_of_nonneg hnonneg, hscaled, Int.floor_intCast]
  push_cast
  rw [pow_add, show (10 : Rat) ^ 4 = 10000 by norm_num, mul_div_cancel_right₀ _ (by norm_num)]

theorem adjusted_nines (places : Nat) : (nines places).adjusted = places - 1 := by
  have hpos : 0 < 10 ^ (places + 4) := Nat.pow_pos (by decide)
  have hexponent : (nines places).exponent = -5 := rfl
  have hcoefficient : (nines places).coefficient = 10 ^ (places + 4) * 10 - 5 := rfl
  have hlong : ¬ (nines places).digitCount ≤ places + 4 := by
    rw [digitCount_eq, Text.length_digitsOfNat_le_iff (by omega), hcoefficient]
    omega
  have hshort : (nines places).digitCount ≤ places + 5 := by
    refine digitCount_le_of_lt (by omega) ?_
    rw [hcoefficient, pow_succ _ (places + 4)]
    omega
  rw [adjusted, hexponent]
  omega

/-- A million nines before the point cannot be displayed, although their exponent is in range: the
carry makes one more digit. -/
theorem display_nines :
    (nines 1000000).adjusted = maxExponent ∧
      (nines 1000000).display = .error .tooManyDigits := by
  refine ⟨adjusted_nines 1000000, ?_⟩
  rw [display_eq, if_neg]
  rw [adjusted_le_maxExponent_iff (m := 1000000) (k := 4) rfl rfl, magnitude_fourPlaces_nines]
  exact lt_irrefl _

end Decimal

end TapeMeasure
