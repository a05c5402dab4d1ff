import TapeMeasure.Proofs.Calculation.Continued
import TapeMeasure.Proofs.Calculation.Length

/-!
# Calculations that break down

The three displayed forms have a limit each, and the first limit that a final quantity reaches
decides what becomes of it.  Two of them are reported as a result out of range.  The third one, the
exponent of the decimal form, is not: a calculation whose result has more than a million digits
breaks down.

* `Quantity.display_limits`: the three limits; `Quantity.isReported_iff`: what is reported.
* `calculate_eq_breakdown_iff`: the calculations that break down.
* `repeatedProduct`, `exists_folds_repeatedProduct`: texts with results of any size.
* `exists_folds_longFeet`: how many digits the product of long lengths has.
* `calculate_breakdown_iff`: what is reported and what is not, with the length that a text needs to
  break down.
-/

namespace TapeMeasure

open Text

namespace Quantity

variable {q : Quantity}

/-! ## The limits of the display -/

/-- A whole number is reached by a quantity exactly if it is reached by the whole inches. -/
theorem natCast_le_abs_toRat_iff {n : Nat} : (n : Rat) ≤ |q.toRat| ↔ n ≤ q.whole := by
  have hfraction : (q.numerator : Rat) / q.denominator < 1 :=
    (div_lt_one (Nat.cast_pos.mpr q.denominator_pos)).mpr (Nat.cast_lt.mpr q.numerator_lt)
  constructor
  · intro h
    rw [q.abs_toRat] at h
    have hlt : (n : Rat) < ((q.whole + 1 : Nat) : Rat) := by
      push_cast
      exact h.trans_lt (add_lt_add_right hfraction _)
    exact Nat.lt_succ_iff.mp (Nat.cast_lt.mp hlt)
  · intro h
    exact (Nat.cast_le.mpr h).trans q.whole_le_abs_toRat

/-- From a million digits on there is no decimal form. -/
theorem totalInches_of_le (h : (10 : Rat) ^ 1000000 ≤ |q.toRat|) :
    q.totalInches = .error .exponentTooLarge := by
  have hnone : ¬∃ d, q.toDecimal = .ok d := by
    rw [exists_toDecimal_iff (m := 1000000) rfl]
    exact not_lt.mpr h
  have hfault : q.toDecimal = .error .exponentTooLarge := by
    rw [toDecimal_eq] at hnone ⊢
    split at hnone
    · rw [if_pos ‹_›]
    · exact absurd ⟨_, rfl⟩ hnone
  rw [totalInches, hfault]
  rfl

/-- The feet are short enough exactly below the foot with one digit more. -/
theorem length_feet_le_iff : (digitsOfNat (q.whole / 12)).length ≤ maxIntegerDigits ↔
    |q.toRat| < 12 * 10 ^ maxIntegerDigits := by
  have hcast : (12 * 10 ^ maxIntegerDigits : Rat) = ((12 * 10 ^ maxIntegerDigits : Nat) : Rat) := by
    rw [Nat.cast_mul, Nat.cast_pow, Nat.cast_ofNat, Nat.cast_ofNat]
  rw [length_digitsOfNat_le_iff (by decide), Nat.div_lt_iff_lt_mul (by decide), Nat.mul_comm, hcast,
    ← not_le, ← not_le, natCast_le_abs_toRat_iff]

/-- From there on, feet and inches are not written. -/
theorem feetInches_of_le (h : 12 * 10 ^ maxIntegerDigits ≤ |q.toRat|) :
    q.feetInches = .error .integerTooLong := by
  have hdigits : ¬(digitsOfNat (q.whole / 12)).length ≤ maxIntegerDigits := by
    rw [length_feet_le_iff]
    exact not_lt.mpr h
  have hfeet : q.whole / 12 ≠ 0 := by
    intro hzero
    rw [hzero] at hdigits
    exact hdigits (by decide)
  have hnonzero : ¬q.isZero = true := by
    intro hzero
    rw [isZero, Bool.and_eq_true, beq_iff_eq] at hzero
    exact hfeet (by rw [hzero.1])
  rw [feetInches, if_neg hnonzero, feetPart, if_neg hfeet, boundedDigits, if_neg hdigits]
  rfl

theorem toDouble_of_le (h : (2 : Rat) ^ 1024 - 2 ^ 970 ≤ |q.toRat|) :
    q.toDouble = .error .doubleTooLarge := by
  cases hdecimal : q.toDouble with
  | ok decimal => exact absurd h (not_le.mpr (exists_toDouble_iff.mp ⟨decimal, hdecimal⟩))
  | error fault => rw [eq_doubleTooLarge_of_toDouble hdecimal]

/-- What has a double is far from needing too large an exponent. -/
theorem double_lt_exponent : (2 : Rat) ^ 1024 - 2 ^ 970 < (10 : Rat) ^ 1000000 := by
  calc
    (2 : Rat) ^ 1024 - 2 ^ 970 < (2 : Rat) ^ 1024 := sub_lt_self _ (pow_pos (by norm_num) _)
    _ ≤ (10 : Rat) ^ 1024 := pow_le_pow_left₀ (by norm_num) (by norm_num) _
    _ ≤ (10 : Rat) ^ 1000000 := pow_le_pow_right₀ (by norm_num) (by decide)

/-- **The first limit that a quantity reaches decides how its display fails.** The decimal form is
made first and needs an exponent, feet and inches need few enough digits, and the double, which has
the lowest limit, is made last. -/
theorem display_limits (q : Quantity) (measurement : Bool) :
    ((10 : Rat) ^ 1000000 ≤ |q.toRat| → q.display measurement = .error .exponentTooLarge) ∧
    (|q.toRat| < (10 : Rat) ^ 1000000 → measurement = true →
      12 * 10 ^ maxIntegerDigits ≤ |q.toRat| →
        q.display measurement = .error .integerTooLong) ∧
    (|q.toRat| < (10 : Rat) ^ 1000000 →
      (measurement = true → |q.toRat| < 12 * 10 ^ maxIntegerDigits) →
      (2 : Rat) ^ 1024 - 2 ^ 970 ≤ |q.toRat| →
        q.display measurement = .error .doubleTooLarge) ∧
    (|q.toRat| < (2 : Rat) ^ 1024 - 2 ^ 970 → ∃ shown, q.display measurement = .ok shown) := by
  rw [display_eq]
  refine ⟨fun hexponent => ?_, fun hexponent hmode hfeet => ?_, fun hexponent hfeet hdouble => ?_,
    fun hdouble => ?_⟩
  · exact bind_eq_error_iff.mpr (Or.inl (totalInches_of_le hexponent))
  · obtain ⟨total, htotal⟩ := exists_totalInches (m := 1000000) le_rfl hexponent
    refine bind_eq_error_iff.mpr (Or.inr ⟨total, htotal, bind_eq_error_iff.mpr (Or.inl ?_)⟩)
    rw [if_pos hmode]
    exact feetInches_of_le hfeet
  · obtain ⟨total, htotal⟩ := exists_totalInches (m := 1000000) le_rfl hexponent
    obtain ⟨feet, hshown⟩ : ∃ feet, (if measurement then q.feetInches else .ok total) =
        Except.ok feet := by
      cases measurement with
      | false => exact ⟨total, rfl⟩
      | true => exact exists_feetInches (length_feet_le_iff.mpr (hfeet rfl))
    refine bind_eq_error_iff.mpr (Or.inr ⟨total, htotal, ?_⟩)
    refine bind_eq_error_iff.mpr (Or.inr ⟨feet, hshown, ?_⟩)
    exact bind_eq_error_iff.mpr (Or.inl (toDouble_of_le hdouble))
  · have hexponent : |q.toRat| < (10 : Rat) ^ 1000000 := hdouble.trans double_lt_exponent
    obtain ⟨total, htotal⟩ := exists_totalInches (m := 1000000) le_rfl hexponent
    obtain ⟨feet, hfeet⟩ := exists_feetInches_of_lt hdouble
    obtain ⟨decimal, hdecimal⟩ := exists_toDouble_iff.mpr hdouble
    rw [← display_eq]
    exact ⟨_, exists_display htotal hfeet hdecimal measurement⟩

/-- A quantity is displayed, or has a fault that is reported, exactly if it stays below the limit of
the exponent. -/
theorem isReported_iff (q : Quantity) (measurement : Bool) :
    ((∃ shown, q.display measurement = .ok shown) ∨
      ∃ fault, fault ≠ .exponentTooLarge ∧ q.display measurement = .error fault) ↔
    |q.toRat| < (10 : Rat) ^ 1000000 := by
  obtain ⟨hexponent, hfeet, hdouble, hshown⟩ := q.display_limits measurement
  constructor
  · intro h
    by_contra hlarge
    have hfault := hexponent (not_lt.mp hlarge)
    rcases h with ⟨shown, hok⟩ | ⟨fault, hne, herror⟩
    · cases hfault.symm.trans hok
    · cases hfault.symm.trans herror
      exact hne rfl
  · intro hlt
    by_cases hsmall : |q.toRat| < (2 : Rat) ^ 1024 - 2 ^ 970
    · exact Or.inl (hshown hsmall)
    · right
      by_cases hlong : measurement = true ∧ 12 * 10 ^ maxIntegerDigits ≤ |q.toRat|
      · exact ⟨.integerTooLong, by decide, hfeet hlt hlong.1 hlong.2⟩
      · refine ⟨.doubleTooLarge, by decide, hdouble hlt (fun hmode => ?_) (not_lt.mp hsmall)⟩
        exact not_le.mp fun hle => hlong ⟨hmode, hle⟩

end Quantity

/-! ## The calculations that break down -/

variable {text factor : String} {operand : Operand}

theorem answerOf_eq_breakdown_iff (text : String) (measurement : Bool) (q : Quantity) :
    answerOf text measurement q = .breakdown ↔ (10 : Rat) ^ 1000000 ≤ |q.toRat| := by
  rw [← not_lt, ← q.isReported_iff measurement]
  unfold answerOf
  cases q.display measurement with
  | ok shown => exact iff_of_false (fun h => nomatch h) (not_not_intro (Or.inl ⟨shown, rfl⟩))
  | error fault =>
    cases fault with
    | exponentTooLarge =>
      refine iff_of_true rfl ?_
      rintro (⟨shown, h⟩ | ⟨fault, hne, h⟩)
      · cases h
      · cases h
        exact hne rfl
    | tooManyDigits | integerTooLong | doubleTooLarge =>
      exact iff_of_false (fun h => nomatch h)
        (not_not_intro (Or.inr ⟨_, by decide, rfl⟩))

theorem calculate_eq_breakdown_iff (text : String) :
    calculate text = .breakdown ↔ ∃ q, Folds text q ∧ (10 : Rat) ^ 1000000 ≤ |q.toRat| := by
  constructor
  · intro h
    rcases exists_fault_or_folds text with ⟨fault, hfault⟩ | ⟨tokens, fault, htokens, hfault⟩ |
      ⟨tokens, e, operand, htokens, he, hmem, hzero⟩ | ⟨q, hq⟩
    · cases h.symm.trans (calculate_of_error hfault)
    · cases h.symm.trans (calculate_of_notExpression htokens hfault)
    · cases h.symm.trans (calculate_of_divisor htokens he hmem hzero)
    · obtain ⟨measurement, hcalculate⟩ := exists_answerOf hq
      exact ⟨q, hq, (answerOf_eq_breakdown_iff text measurement q).mp (hcalculate.symm.trans h)⟩
  · rintro ⟨q, hq, hlarge⟩
    obtain ⟨measurement, hcalculate⟩ := exists_answerOf hq
    rw [hcalculate, answerOf_eq_breakdown_iff]
    exact hlarge

/-! ## Long products -/

/-- A text multiplied by itself so many times. -/
def repeatedProduct (factor : String) : Nat → String
  | 0 => factor
  | n + 1 => continuedText (repeatedProduct factor n) .multiply factor

theorem folds_of_isOperandText (h : IsOperandText factor operand) :
    Folds factor operand.quantity := by
  obtain ⟨tokens, htokens, he⟩ := h
  exact ⟨tokens, _, htokens, he, rfl⟩

/-- The product of whole numbers of inches is not rounded. -/
theorem exists_folds_repeatedProduct (h : IsOperandText factor operand) {k : Int}
    (hk : operand.quantity.toRat = k) (n : Nat) :
    ∃ q, Folds (repeatedProduct factor n) q ∧ q.toRat = (k : Rat) ^ (n + 1) := by
  induction n with
  | zero => exact ⟨_, folds_of_isOperandText h, by rw [hk, Nat.zero_add, pow_one]⟩
  | succ n ih =>
    obtain ⟨q, hq, hvalue⟩ := ih
    refine ⟨q.multiply operand.quantity, folds_continuedText hq h rfl, ?_⟩
    rw [Quantity.multiply, hvalue, hk, ← pow_succ, ← Int.cast_pow, Quantity.toRat_ofRat_intCast]

/-- Ten to the sixty-third feet, a number with as many digits as are read. -/
def longFeet : String :=
  "1000000000000000000000000000000000000000000000000000000000000000'"

theorem isOperandText_longFeet :
    IsOperandText longFeet ⟨false, some (10 ^ 63), none, none, false⟩ := by
  decide +kernel

/-- Every factor adds sixty-four digits to the product. -/
theorem exists_folds_longFeet {m n : Nat} (h : m ≤ 64 * (n + 1)) :
    ∃ q, Folds (repeatedProduct longFeet n) q ∧ (10 : Rat) ^ m ≤ |q.toRat| := by
  have hinches : (⟨false, some (10 ^ 63), none, none, false⟩ : Operand).quantity.toRat =
      ((12 * 10 ^ 63 : Int) : Rat) := by
    decide +kernel
  obtain ⟨q, hq, hvalue⟩ := exists_folds_repeatedProduct isOperandText_longFeet hinches n
  have hfactor : (10 : Rat) ^ 64 ≤ ((12 * 10 ^ 63 : Int) : Rat) := by norm_num
  refine ⟨q, hq, ?_⟩
  calc
    (10 : Rat) ^ m ≤ (10 : Rat) ^ (64 * (n + 1)) := pow_le_pow_right₀ (by norm_num) h
    _ = ((10 : Rat) ^ 64) ^ (n + 1) := pow_mul 10 64 (n + 1)
    _ ≤ ((12 * 10 ^ 63 : Int) : Rat) ^ (n + 1) :=
      pow_le_pow_left₀ (pow_nonneg (by norm_num) _) hfactor _
    _ = q.toRat := hvalue.symm
    _ ≤ |q.toRat| := le_abs_self _

/-- **A calculation breaks down exactly if its result has more than a million digits.** Below that
every quantity is displayed or has a fault that is reported.  From there on the decimal form needs
too large an exponent, which is not reported, so the calculations that break down are those with
such a final quantity.  Their texts have 999999 characters at least. -/
theorem calculate_breakdown_iff (text : String) :
    (∀ (q : Quantity) (measurement : Bool),
      ((∃ shown, q.display measurement = .ok shown) ∨
        ∃ fault, fault ≠ .exponentTooLarge ∧ q.display measurement = .error fault) ↔
      |q.toRat| < (10 : Rat) ^ 1000000) ∧
    (calculate text = .breakdown ↔ ∃ q, Folds text q ∧ (10 : Rat) ^ 1000000 ≤ |q.toRat|) ∧
    (calculate text = .breakdown → 999999 ≤ text.length) := by
  refine ⟨Quantity.isReported_iff, calculate_eq_breakdown_iff text, fun h => ?_⟩
  obtain ⟨q, hq, hlarge⟩ := (calculate_eq_breakdown_iff text).mp h
  have hpow : (10 : Rat) ^ 1000000 ≤ (10 : Rat) ^ (text.length + 1) :=
    hlarge.trans hq.abs_toRat_le
  have hlength : 1000000 ≤ text.length + 1 := (pow_le_pow_iff_right₀ (by norm_num)).mp hpow
  exact Nat.le_of_succ_le_succ hlength

/-- The final quantity of the long product is not displayed, and its text is as long as it has to
be. -/
theorem calculate_breakdown_iff_longFeet :
    ∃ q, Folds (repeatedProduct longFeet 15624) q ∧
      (¬∃ shown, q.display true = .ok shown) ∧
      calculate (repeatedProduct longFeet 15624) = .breakdown ∧
      999999 ≤ (repeatedProduct longFeet 15624).length := by
  obtain ⟨hreported, hbreakdown, hlength⟩ :=
    calculate_breakdown_iff (repeatedProduct longFeet 15624)
  obtain ⟨q, hq, hlarge⟩ := exists_folds_longFeet (m := 1000000) (n := 15624) (by decide)
  have hcalculate := hbreakdown.mpr ⟨q, hq, hlarge⟩
  refine ⟨q, hq, fun hshown => ?_, hcalculate, hlength hcalculate⟩
  exact not_lt.mpr hlarge ((hreported q true).mp (Or.inl hshown))

/-- The same product has neither a result nor a failure that is reported. -/
theorem calculate_longFeet : calculate (repeatedProduct longFeet 15624) = .breakdown :=
  (calculate_eq_breakdown_iff _).mpr (exists_folds_longFeet (by decide))

end TapeMeasure
