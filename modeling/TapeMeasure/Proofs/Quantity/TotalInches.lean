import Mathlib.Data.Nat.Size
import Mathlib.Tactic.FieldSimp
import Mathlib.Tactic.IntervalCases
import TapeMeasure.Proofs.Decimal.Display
import TapeMeasure.Proofs.Quantity.Sixteenths
import TapeMeasure.Quantity.Display

/-!
# The displayed number of inches

A quantity is turned into a decimal with a precision that is computed from its whole inches, and
the decimal is displayed with a precision that is computed from its leading digit.  Both leave
enough room, so what is displayed is a numeral for the exact number of inches.

* `natAbs_lt_pow_integerDigits`: the bound on the number of digits that the first precision rests
  on.
* `exists_unsignedDecimal`, `toDecimal_eq`, `toRat_of_toDecimal`: the decimal is exact and has four
  places at most.
* `integerDigits_bounds`: the bound holds at every size, and the precision has room for what it is
  made for.
* `isCanonicalText_of_totalInches`, `exists_numeral_of_totalInches`: the displayed text.
-/

namespace TapeMeasure

open Text

namespace Quantity

/-! ## The first precision -/

/-- Three binary digits make at most one decimal digit, and up to two more make another one. -/
theorem two_pow_le_ten_pow (b : Nat) : 2 ^ b ≤ 10 ^ (b / 3 + 1) := by
  have hsplit : b = 3 * (b / 3) + b % 3 := (Nat.div_add_mod b 3).symm
  have hrest : 2 ^ (b % 3) ≤ 10 := by
    have : b % 3 < 3 := Nat.mod_lt _ (by decide)
    interval_cases b % 3 <;> decide
  calc
    2 ^ b = 8 ^ (b / 3) * 2 ^ (b % 3) := by
      conv_lhs => rw [hsplit]
      rw [pow_add, pow_mul]
      norm_num
    _ ≤ 10 ^ (b / 3) * 10 := Nat.mul_le_mul (Nat.pow_le_pow_left (by decide) _) hrest
    _ = 10 ^ (b / 3 + 1) := (pow_succ _ _).symm

/-- A third of the binary digits is counted, and one digit more. -/
theorem integerDigits_eq_size (n : Int) : integerDigits n = Nat.size n.natAbs / 3 + 1 := by
  rw [integerDigits]
  by_cases hn : n = 0
  · rw [hn]
    rfl
  · have hne : n.natAbs ≠ 0 := Int.natAbs_ne_zero.mpr hn
    have hsize : Nat.size n.natAbs = Nat.log2 n.natAbs + 1 :=
      Nat.le_antisymm (Nat.size_le.mpr Nat.lt_log2_self) (Nat.lt_size.mpr (Nat.log2_self_le hne))
    rw [if_neg hn, hsize]

/-- A whole number has no more digits than are counted for it. -/
theorem natAbs_lt_pow_integerDigits (n : Int) : n.natAbs < 10 ^ integerDigits n := by
  rw [integerDigits]
  by_cases hn : n = 0
  · rw [hn]
    decide
  · have hlog : n.natAbs < 2 ^ (Nat.log2 n.natAbs + 1) := Nat.lt_log2_self
    rw [if_neg hn]
    exact hlog.trans_le (two_pow_le_ten_pow _)

/-! ## The exact decimal -/

/-- The places of a fraction have its value. -/
theorem magnitude_fractionDecimal {n d : Nat} (hd : d ∣ 16) :
    (fractionDecimal n d).magnitude = (n : Rat) / d := by
  have hne : (d : Rat) ≠ 0 := Nat.cast_ne_zero.mpr (Nat.pos_of_dvd_of_pos hd (by decide)).ne'
  have hmul : (d : Rat) * ((10000 / d : Nat) : Rat) = 10000 := by
    have : d * (10000 / d) = 10000 := Nat.mul_div_cancel' (hd.trans (by decide))
    exact_mod_cast this
  rw [fractionDecimal, Decimal.magnitude_normalize, Decimal.magnitude]
  have hpow : (10 : Rat) ^ (-(Decimal.displayPlaces : Int)) = 1 / 10000 := by
    rw [zpow_neg, zpow_natCast]
    norm_num [Decimal.displayPlaces]
  simp only [hpow]
  push_cast
  field_simp
  linear_combination (n : Rat) * hmul

/-- A proper fraction has at most four places, and no digits before the point. -/
theorem exists_fractionDecimal {n d : Nat} (hd : d ∣ 16) (hn : n < d) :
    ∃ k : Nat, k ≤ 4 ∧ (fractionDecimal n d).exponent = -(k : Int) ∧
      (fractionDecimal n d).negative = false ∧ (fractionDecimal n d).coefficient < 10 ^ k := by
  have hmul : d * (10000 / d) = 10000 := Nat.mul_div_cancel' (hd.trans (by decide))
  have hlt : n * (10000 / d) < 10 ^ 4 := by
    calc
      n * (10000 / d) < d * (10000 / d) :=
        Nat.mul_lt_mul_of_pos_right hn (Nat.pos_of_ne_zero fun h => by simp [h] at hmul)
      _ = 10 ^ 4 := hmul
  rw [fractionDecimal]
  obtain ⟨hnegative, ⟨-, hzero⟩ | ⟨j, hc, he, hmod⟩⟩ :=
    Decimal.exists_normalize ⟨false, n * (10000 / d), -Decimal.displayPlaces⟩
  · refine ⟨0, by decide, ?_, hnegative, ?_⟩
    · rw [hzero]
      rfl
    · rw [hzero]
      exact Nat.one_pos
  · generalize Decimal.normalize ⟨false, n * (10000 / d), -Decimal.displayPlaces⟩ = f at *
    have hpos : 0 < f.coefficient := Nat.pos_of_ne_zero fun h => by simp [h] at hmod
    have hprod : f.coefficient * 10 ^ j < 10 ^ 4 := by rwa [← hc]
    have hj : j < 4 := by
      by_contra hj
      have : 10 ^ 4 ≤ 10 ^ j := Nat.pow_le_pow_right (by decide) (not_lt.mp hj)
      have : 10 ^ j ≤ f.coefficient * 10 ^ j := Nat.le_mul_of_pos_left _ hpos
      omega
    refine ⟨4 - j, by omega, ?_, hnegative, ?_⟩
    · have hplaces : (Decimal.displayPlaces : Int) = 4 := rfl
      simp only at he
      omega
    · have hsplit : 10 ^ 4 = 10 ^ (4 - j) * 10 ^ j := by
        rw [← pow_add, Nat.sub_add_cancel hj.le]
      rw [hsplit] at hprod
      exact Nat.lt_of_mul_lt_mul_right hprod

/-- The whole inches and the places together, before they get a sign. -/
def unsignedDecimal (q : Quantity) : Decimal :=
  Decimal.exactAdd (Decimal.ofNat q.whole) (fractionDecimal q.numerator q.denominator)

/-- The digits of the exact sum fit the precision. -/
theorem exists_unsignedDecimal (q : Quantity) :
    ∃ k : Nat, k ≤ 4 ∧ q.unsignedDecimal.exponent = -(k : Int) ∧
      q.unsignedDecimal.negative = false ∧
      q.unsignedDecimal.coefficient < 10 ^ (integerDigits q.whole + k) := by
  obtain ⟨k, hk, he, hnegative, hc⟩ := exists_fractionDecimal q.denominator_dvd q.numerator_lt
  have hexponent : q.unsignedDecimal.exponent = -(k : Int) := by
    show min 0 (fractionDecimal q.numerator q.denominator).exponent = -(k : Int)
    omega
  have hwhole : (Decimal.ofNat q.whole).coefficientAt (-(k : Int)) =
      ((q.whole * 10 ^ k : Nat) : Int) := by
    have hshift : (0 - -(k : Int)).toNat = k := by omega
    simp only [Decimal.coefficientAt, Decimal.ofNat, hshift, Bool.false_eq_true, if_false]
    rfl
  have hfraction : (fractionDecimal q.numerator q.denominator).coefficientAt (-(k : Int)) =
      ((fractionDecimal q.numerator q.denominator).coefficient : Int) := by
    simp only [Decimal.coefficientAt, he, hnegative, sub_self, Bool.false_eq_true, if_false]
    simp
  have hsum : (Decimal.ofNat q.whole).coefficientAt q.unsignedDecimal.exponent +
      (fractionDecimal q.numerator q.denominator).coefficientAt q.unsignedDecimal.exponent =
      ((q.whole * 10 ^ k + (fractionDecimal q.numerator q.denominator).coefficient : Nat) :
        Int) := by
    rw [hexponent, hwhole, hfraction, Nat.cast_add]
  refine ⟨k, hk, hexponent, ?_, ?_⟩
  · refine decide_eq_false (not_lt.mpr ?_)
    exact hsum ▸ Int.natCast_nonneg _
  · have hcoefficient : q.unsignedDecimal.coefficient =
        q.whole * 10 ^ k + (fractionDecimal q.numerator q.denominator).coefficient := by
      exact congrArg Int.natAbs hsum
    have hdigits : q.whole < 10 ^ integerDigits q.whole := natAbs_lt_pow_integerDigits q.whole
    calc
      q.unsignedDecimal.coefficient < q.whole * 10 ^ k + 10 ^ k := by
        rw [hcoefficient]
        exact Nat.add_lt_add_left hc _
      _ = (q.whole + 1) * 10 ^ k := (Nat.succ_mul _ _).symm
      _ ≤ 10 ^ integerDigits q.whole * 10 ^ k := Nat.mul_le_mul_right _ hdigits
      _ = 10 ^ (integerDigits q.whole + k) := (pow_add _ _ _).symm

/-- The precision has room for the exact sum. -/
theorem roundTo_unsignedDecimal (q : Quantity) :
    q.unsignedDecimal.roundTo (integerDigits q.whole + Decimal.displayPlaces + 1) =
      q.unsignedDecimal := by
  obtain ⟨k, hk, -, -, hc⟩ := q.exists_unsignedDecimal
  have hpow : 10 ^ (integerDigits q.whole + k) ≤
      10 ^ (integerDigits q.whole + Decimal.displayPlaces + 1) :=
    Nat.pow_le_pow_right (by decide) (by rw [Decimal.displayPlaces]; omega)
  exact Decimal.roundTo_eq_self (Decimal.digitCount_le_of_lt (Nat.succ_pos _) (hc.trans_le hpow))

/-- The exact sum is not rounded, so only its exponent can be too large. -/
theorem toDecimal_eq (q : Quantity) : q.toDecimal =
    if Decimal.maxExponent < q.unsignedDecimal.adjusted then .error .exponentTooLarge
    else .ok (q.unsignedDecimal.withSign q.negative) := by
  have hexact := q.roundTo_unsignedDecimal
  rw [unsignedDecimal] at hexact ⊢
  simp only [toDecimal, Decimal.add, hexact, Decimal.checkExponent]
  by_cases hadjusted : Decimal.maxExponent < q.unsignedDecimal.adjusted
  · rw [unsignedDecimal] at hadjusted
    rw [if_pos hadjusted, if_pos hadjusted]
  · rw [unsignedDecimal] at hadjusted
    rw [if_neg hadjusted, if_neg hadjusted]

theorem toDecimal_eq_ok_iff {q : Quantity} {d : Decimal} : q.toDecimal = .ok d ↔
    q.unsignedDecimal.adjusted ≤ Decimal.maxExponent ∧
      q.unsignedDecimal.withSign q.negative = d := by
  rw [toDecimal_eq]
  by_cases hadjusted : q.unsignedDecimal.adjusted ≤ Decimal.maxExponent
  · rw [if_neg (not_lt.mpr hadjusted), Except.ok.injEq]
    exact (and_iff_right hadjusted).symm
  · rw [if_pos (not_le.mp hadjusted)]
    exact iff_of_false (fun h => nomatch h) (fun h => hadjusted h.1)

theorem magnitude_unsignedDecimal (q : Quantity) : q.unsignedDecimal.magnitude = |q.toRat| := by
  obtain ⟨-, -, -, hnegative, -⟩ := exists_fractionDecimal q.denominator_dvd q.numerator_lt
  have hfraction : (fractionDecimal q.numerator q.denominator).toRat =
      (q.numerator : Rat) / (q.denominator : Rat) := by
    rw [Decimal.toRat_eq, hnegative, if_neg Bool.false_ne_true,
      magnitude_fractionDecimal q.denominator_dvd]
  rw [← Decimal.abs_toRat, unsignedDecimal, Decimal.toRat_exactAdd, Decimal.toRat_ofNat, hfraction,
    ← abs_toRat, abs_abs]

/-- The decimal is exact. -/
theorem toRat_of_toDecimal {q : Quantity} {d : Decimal} (h : q.toDecimal = .ok d) :
    d.toRat = q.toRat := by
  obtain ⟨-, rfl⟩ := toDecimal_eq_ok_iff.mp h
  rw [q.toRat_eq_abs, ← magnitude_unsignedDecimal]
  rfl

/-- The decimal has four places at most. -/
theorem exponent_of_toDecimal {q : Quantity} {d : Decimal} (h : q.toDecimal = .ok d) :
    -4 ≤ d.exponent := by
  obtain ⟨-, rfl⟩ := toDecimal_eq_ok_iff.mp h
  obtain ⟨k, hk, hexponent, -, -⟩ := q.exists_unsignedDecimal
  have hsigned : (q.unsignedDecimal.withSign q.negative).exponent = -(k : Int) := hexponent
  omega

/-- **The count of digits is an upper bound at every size.** A whole number is below the power of
ten with that exponent, so it has no more decimal digits than a third of its binary ones and one.
Four places behind a whole number take four digits more, so the precision, which has room for five,
rounds neither a number with four places nor the sum that it is made for. -/
theorem integerDigits_bounds (v : Int) :
    v.natAbs < 10 ^ integerDigits v ∧
      (digitsOfNat v.natAbs).length ≤ Nat.size v.natAbs / 3 + 1 ∧
      (∀ (places : Fin 10000) (negative : Bool),
        let d : Decimal := ⟨negative, 10000 * v.natAbs + places, -4⟩
        d.digitCount ≤ integerDigits v + 4 ∧ d.roundTo (integerDigits v + 5) = d) ∧
      ∀ q : Quantity,
        Decimal.add (integerDigits q.whole + 5) (Decimal.ofNat q.whole)
            (fractionDecimal q.numerator q.denominator) =
          q.unsignedDecimal.checkExponent := by
  have hbound := natAbs_lt_pow_integerDigits v
  refine ⟨hbound, ?_, ?_, ?_⟩
  · rw [← integerDigits_eq_size]
    exact (length_digitsOfNat_le_iff (by rw [integerDigits]; exact Nat.succ_pos _)).mpr hbound
  · intro places negative d
    have hcoefficient : d.coefficient < 10 ^ (integerDigits v + 4) := by
      have hplaces := places.isLt
      rw [pow_add]
      show 10000 * v.natAbs + places < _
      omega
    have hcount := Decimal.digitCount_le_of_lt (Nat.succ_pos _) hcoefficient
    exact ⟨hcount, Decimal.roundTo_eq_self (Nat.le_succ_of_le hcount)⟩
  · intro q
    exact congrArg Decimal.checkExponent q.roundTo_unsignedDecimal

/-! ## The displayed text -/

theorem totalInches_eq_ok_iff {q : Quantity} {text : List Char} :
    q.totalInches = .ok text ↔ ∃ d, q.toDecimal = .ok d ∧ d.display = .ok text := by
  rw [totalInches]
  cases q.toDecimal with
  | error fault => exact iff_of_false (fun h => nomatch h) (fun ⟨_, h, _⟩ => nomatch h)
  | ok d =>
    simp only [bind, Except.bind, Except.ok.injEq, exists_eq_left']
    cases d.display with
    | error fault => exact iff_of_false (fun h => nomatch h) (fun h => nomatch h)
    | ok shown =>
      constructor <;>
        · intro h
          cases h
          rfl

/-- What is displayed is the text of the exact number of inches. -/
theorem isCanonicalText_of_totalInches {q : Quantity} {text : List Char}
    (h : q.totalInches = .ok text) : Decimal.IsCanonicalText q.toRat text := by
  obtain ⟨d, hd, hdisplay⟩ := totalInches_eq_ok_iff.mp h
  have hcanonical := Decimal.isCanonicalText_of_display hdisplay
  rwa [Decimal.toRat_fourPlaces_of_exponent (exponent_of_toDecimal hd),
    toRat_of_toDecimal hd] at hcanonical

/-- The displayed number is a numeral for the exact number of inches, with the sign of the
quantity in front. -/
theorem exists_numeral_of_totalInches {q : Quantity} {text : List Char}
    (h : q.totalInches = .ok text) :
    ∃ n : Token.Numeral, n.Proper ∧ text = Decimal.signed q.negative n.text ∧
      n.value.magnitude = |q.toRat| := by
  obtain ⟨n, hn, hmagnitude, htext⟩ := isCanonicalText_of_totalInches h
  exact ⟨n, hn.toProper, by rw [htext, negative_eq_decide], hmagnitude⟩

end Quantity

end TapeMeasure
