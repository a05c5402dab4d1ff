import Mathlib.Tactic.NormNum
import Mathlib.Tactic.Positivity
import TapeMeasure.Proofs.Expression.Mixed
import TapeMeasure.Proofs.Quantity.Nearest
import TapeMeasure.Proofs.Token.Width

/-!
# How large a folded quantity can be

Every character multiplies what can be written by ten at most.  A product multiplies the bounds of
its operands, which is what writing them one behind the other does too; a quotient multiplies by
sixteen at most, since no divisor is nearer to zero than a sixteenth of an inch, and a divisor takes
a character besides its sign of division.

* `Literal.abs_toRat_le`, `Ratio.abs_toRat_le`: numbers and fractions.
* `Operand.Writes.abs_magnitude_le`: operands.
* `Quantity.abs_toRat_ofRat_le`: rounding keeps a whole bound.
* `Operator.abs_apply_le`: one step of a fold.
* `Expression.abs_foldFrom_le`, `Expression.Cut.Writes.abs_fold_le`: a whole fold.
-/

namespace TapeMeasure

open Text Token

/-! ## Numbers and fractions -/

/-- A number is at most the power of ten with as many zeros as it has characters. -/
theorem Literal.abs_toRat_le {l : Literal} (form : NumberForm l.text.toList) :
    |l.value.toRat| ≤ (10 : Rat) ^ l.text.toList.length := by
  have hvalue := l.value_eq
  rw [Decimal.abs_toRat]
  generalize l.text.toList = cs at form hvalue
  cases form with
  | whole isDigit ne =>
    rw [Decimal.parse?_digits isDigit ne] at hvalue
    rw [← Option.some.inj hvalue, Decimal.magnitude, zpow_zero, mul_one]
    exact_mod_cast (natOfDigits_lt isDigit).le
  | @pointed whole places wholeDigit placeDigit ne =>
    rw [Decimal.parse?_point wholeDigit placeDigit ne] at hvalue
    have hdigits : natOfDigits (whole ++ places) ≤ 10 ^ (whole ++ '.' :: places).length := by
      refine (natOfDigits_lt (List.forall_mem_append.mpr ⟨wholeDigit, placeDigit⟩)).le.trans ?_
      refine Nat.pow_le_pow_right (by decide) ?_
      rw [List.length_append, List.length_append, List.length_cons]
      omega
    rw [← Option.some.inj hvalue, Decimal.magnitude]
    calc
      (natOfDigits (whole ++ places) : Rat) * (10 : Rat) ^ (-(places.length : Int))
          ≤ (natOfDigits (whole ++ places) : Rat) * 1 :=
        mul_le_mul_of_nonneg_left (zpow_le_one_of_nonpos₀ (by norm_num) (by omega))
          (Nat.cast_nonneg _)
      _ = (natOfDigits (whole ++ places) : Rat) := mul_one _
      _ ≤ (10 : Rat) ^ (whole ++ '.' :: places).length := by exact_mod_cast hdigits

/-- A fraction is at most what stands above the slash. -/
theorem Ratio.abs_toRat_le (r : Ratio) :
    |r.toRat| ≤ (10 : Rat) ^ (digitsOfNat r.numerator.natAbs).length := by
  have hdenominator : (1 : Rat) ≤ r.denominator := Nat.one_le_cast.mpr r.denominator_pos
  have hnumerator : r.numerator.natAbs < 10 ^ (digitsOfNat r.numerator.natAbs).length :=
    (length_digitsOfNat_le_iff (length_digitsOfNat_pos _)).mp le_rfl
  rw [Ratio.toRat, abs_div, Nat.abs_cast, ← Int.cast_abs, ← Nat.cast_natAbs]
  exact (div_le_self (Nat.cast_nonneg _) hdenominator).trans (by exact_mod_cast hnumerator.le)

/-! ## Operands -/

/-- All numbers among the tokens are written as numbers. -/
def HasNumberForms (tokens : List Token) : Prop :=
  ∀ literal negative position, .number literal negative position ∈ tokens →
    NumberForm literal.text.toList

theorem HasNumberForms.of_subset {tokens tokens' : List Token} (h : HasNumberForms tokens)
    (hsubset : tokens' ⊆ tokens) : HasNumberForms tokens' :=
  fun literal negative position hmem => h literal negative position (hsubset hmem)

/-- Tokens need a character, if there are any. -/
theorem leastLength_pos {tokens : List Token} (h : HasNumberForms tokens) (hne : tokens ≠ []) :
    0 < leastLength tokens := by
  obtain ⟨token, tokens, rfl⟩ := List.exists_cons_of_ne_nil hne
  rw [leastLength_cons]
  refine Nat.add_pos_left ?_ _
  cases token with
  | number literal negative position =>
    exact List.length_pos_iff.mpr (h literal negative position List.mem_cons_self).ne_nil
  | fraction ratio negative position => exact Nat.succ_pos _
  | _ => exact Nat.one_pos

namespace Operand

variable {tokens : List Token} {inches : Option Literal} {fraction : Option Ratio} {percent : Bool}

theorem WritesInches.abs_le (h : WritesInches tokens inches) (hforms : HasNumberForms tokens) :
    |(inches.map fun literal => literal.value.toRat).getD 0| ≤ (10 : Rat) ^ leastLength tokens := by
  cases h with
  | missing => simp
  | given literal negative position =>
    rw [leastLength_cons, leastLength_nil, add_zero]
    exact Literal.abs_toRat_le (hforms literal negative position List.mem_cons_self)

theorem WritesFraction.abs_le (h : WritesFraction tokens fraction) :
    |(fraction.map Ratio.toRat).getD 0| ≤ (10 : Rat) ^ leastLength tokens := by
  cases h with
  | missing => simp
  | given ratio negative position =>
    rw [leastLength_cons, leastLength_nil, add_zero]
    exact ratio.abs_toRat_le.trans (pow_le_pow_right₀ (by norm_num) (Nat.le_add_right _ _))

/-- Inches and a fraction are each at most the power of ten that belongs to all parts. -/
theorem WritesParts.abs_le (h : WritesParts tokens inches fraction percent)
    (hforms : HasNumberForms tokens) :
    |(inches.map fun literal => literal.value.toRat).getD 0 +
      (fraction.map Ratio.toRat).getD 0| ≤ 2 * (10 : Rat) ^ leastLength tokens := by
  cases h with
  | @mk ti tf tm tp _ _ _ _ writesInches writesFraction writesMark writesPercent whole hasInches =>
    have hinches := writesInches.abs_le (hforms.of_subset (List.subset_append_left _ _))
    have hfraction := writesFraction.abs_le
    simp only [leastLength_append]
    rw [two_mul]
    refine (abs_add_le _ _).trans (add_le_add (hinches.trans ?_) (hfraction.trans ?_))
    · exact pow_le_pow_right₀ (by norm_num) (by omega)
    · exact pow_le_pow_right₀ (by norm_num) (by omega)

/-- An operand is at most ten times the power of ten with as many zeros as it has characters. -/
theorem Writes.abs_magnitude_le {o : Operand} (h : Writes tokens o)
    (hforms : HasNumberForms tokens) :
    |o.magnitude| ≤ (10 : Rat) ^ (leastLength tokens + 1) := by
  have htwice : 2 * (10 : Rat) ^ leastLength tokens ≤ 10 ^ (leastLength tokens + 1) := by
    rw [pow_succ, mul_comm]
    exact mul_le_mul_of_nonneg_left (by norm_num) (by positivity)
  cases h with
  | @feet behind inches fraction percent literal negative position mark parts =>
    have hfeet := Literal.abs_toRat_le (hforms literal negative position List.mem_cons_self)
    have hparts := parts.abs_le
      (hforms.of_subset fun _ h => List.mem_cons_of_mem _ (List.mem_cons_of_mem _ h))
    have hwidth : (1 : Rat) ≤ 10 ^ literal.text.toList.length := one_le_pow₀ (by norm_num)
    have hbehind : (1 : Rat) ≤ 10 ^ leastLength behind := one_le_pow₀ (by norm_num)
    have hlength : (10 : Rat) ^ (leastLength (.number literal negative position ::
        .feetMark mark :: behind) + 1) =
          100 * (10 ^ literal.text.toList.length * 10 ^ leastLength behind) := by
      simp only [leastLength_cons, leastWidth]
      ring
    rw [magnitude, ofParts, Option.map_some, Option.getD_some, add_assoc, hlength]
    calc
      |literal.value.toRat * 12 + _| ≤ |literal.value.toRat * 12| + |_| := abs_add_le _ _
      _ ≤ 10 ^ literal.text.toList.length * 12 + 2 * 10 ^ leastLength behind := by
        rw [abs_mul, abs_of_pos (by norm_num : (0 : Rat) < 12)]
        exact add_le_add (mul_le_mul_of_nonneg_right hfeet (by norm_num)) hparts
      _ ≤ 10 ^ literal.text.toList.length * 12 * 10 ^ leastLength behind +
          2 * 10 ^ leastLength behind * 10 ^ literal.text.toList.length :=
        add_le_add (le_mul_of_one_le_right (by positivity) hbehind)
          (le_mul_of_one_le_right (by positivity) hwidth)
      _ = 14 * (10 ^ literal.text.toList.length * 10 ^ leastLength behind) := by ring
      _ ≤ 100 * (10 ^ literal.text.toList.length * 10 ^ leastLength behind) :=
        mul_le_mul_of_nonneg_right (by norm_num) (by positivity)
  | @inches tokens fraction percent literal negative position parts =>
    rw [magnitude, ofParts, Option.map_none, Option.getD_none, zero_mul, zero_add]
    exact (parts.abs_le hforms).trans htwice
  | @fraction tokens percent ratio negative position parts =>
    rw [magnitude, ofParts, Option.map_none, Option.getD_none, zero_mul, zero_add]
    exact (parts.abs_le hforms).trans htwice

end Operand

/-! ## Quantities -/

namespace Quantity

/-- A whole number of inches is not rounded. -/
theorem toRat_ofRat_intCast (k : Int) : (ofRat (k : Rat)).toRat = k := by
  have hsixteenths : (k : Rat) * 16 = ((k * 16 : Int) : Rat) := by rw [Int.cast_mul, Int.cast_ofNat]
  rw [ofRat_eq_of_mul_eq hsixteenths, toRat_ofSixteenths, ← hsixteenths]
  exact mul_div_cancel_right₀ _ (by norm_num)

/-- Rounding keeps a whole bound. -/
theorem abs_toRat_ofRat_le {v : Rat} {k : Int} (h : |v| ≤ k) : |(ofRat v).toRat| ≤ k := by
  obtain ⟨hlower, hupper⟩ := abs_le.mp h
  rw [← Int.cast_neg] at hlower
  have hleft := monotone_toRat_ofRat hlower
  have hright := monotone_toRat_ofRat hupper
  simp only [toRat_ofRat_intCast] at hleft hright
  rw [Int.cast_neg] at hleft
  exact abs_le.mpr ⟨hleft, hright⟩

theorem abs_toRat_ofRat_le_ten_pow {v : Rat} {k : Nat} (h : |v| ≤ (10 : Rat) ^ k) :
    |(ofRat v).toRat| ≤ (10 : Rat) ^ k := by
  rw [← Int.cast_ofNat, ← Int.cast_pow] at h ⊢
  exact abs_toRat_ofRat_le h

/-- What is not zero is a sixteenth of an inch at least. -/
theorem sixteenth_le_abs_toRat {q : Quantity} (h : q.toRat ≠ 0) : 1 / 16 ≤ |q.toRat| := by
  have hne : q.sixteenths ≠ 0 := by
    intro hzero
    exact h (isZero_iff_toRat.mp (isZero_iff.mpr hzero))
  have hone : (1 : Rat) ≤ |(q.sixteenths : Rat)| := by
    exact_mod_cast Int.one_le_abs hne
  rw [toRat_eq_sixteenths_div, abs_div, abs_of_pos (by norm_num : (0 : Rat) < 16)]
  exact div_le_div_of_nonneg_right hone (by norm_num)

end Quantity

/-- A sign changes no bound, and neither does a percent sign. -/
theorem Operand.abs_quantity_le {o : Operand} {k : Nat} (h : |o.magnitude| ≤ (10 : Rat) ^ k) :
    |o.quantity.toRat| ≤ (10 : Rat) ^ k := by
  have htotal : |o.total| ≤ (10 : Rat) ^ k := by
    rw [total]
    split
    · rwa [abs_neg]
    · exact h
  have hnearest := Quantity.abs_toRat_ofRat_le_ten_pow htotal
  rw [quantity]
  split
  · refine Quantity.abs_toRat_ofRat_le_ten_pow ?_
    rw [abs_div, abs_of_pos (by norm_num : (0 : Rat) < 100)]
    exact (div_le_self (abs_nonneg _) (by norm_num)).trans hnearest
  · exact hnearest

/-! ## Folds -/

/-- A total, an operator and an operand need as many characters as all three one behind the other,
and the operand needs one at least. -/
theorem Operator.abs_apply_le {op : Operator} {a b c : Quantity} {k m : Nat} (hm : 0 < m)
    (ha : |a.toRat| ≤ (10 : Rat) ^ (k + 1)) (hb : |b.toRat| ≤ (10 : Rat) ^ (m + 1))
    (h : op.apply a b = .ok c) : |c.toRat| ≤ (10 : Rat) ^ (k + (1 + m) + 1) := by
  have hbound : (10 : Rat) ^ (k + (1 + m) + 1) = 10 ^ (k + 1) * 10 ^ (m + 1) := by
    rw [← pow_add]
    congr 1
    omega
  have hk : (10 : Rat) ^ 1 ≤ 10 ^ (k + 1) := pow_le_pow_right₀ (by norm_num) (by omega)
  have hten : (10 : Rat) ^ 2 ≤ 10 ^ (m + 1) := pow_le_pow_right₀ (by norm_num) (by omega)
  have hsum : |a.toRat| + |b.toRat| ≤ (10 : Rat) ^ (k + (1 + m) + 1) := by
    rw [hbound]
    exact (add_le_add ha hb).trans
      (add_le_mul (le_trans (by norm_num) hk) (le_trans (by norm_num) hten))
  cases op with
  | add =>
    cases h
    rw [Quantity.toRat_add]
    exact (abs_add_le _ _).trans hsum
  | subtract =>
    cases h
    rw [Quantity.toRat_subtract]
    exact (abs_sub _ _).trans hsum
  | multiply =>
    cases h
    refine Quantity.abs_toRat_ofRat_le_ten_pow ?_
    rw [abs_mul, hbound]
    exact mul_le_mul ha hb (abs_nonneg _) (by positivity)
  | divide =>
    have hb0 : b.toRat ≠ 0 := by
      intro hzero
      rw [apply, Quantity.divide, if_pos (Quantity.isZero_iff_toRat.mpr hzero)] at h
      cases h
    rw [apply, Quantity.divide_of_toRat_ne_zero a hb0] at h
    cases h
    refine Quantity.abs_toRat_ofRat_le_ten_pow ?_
    rw [abs_div, hbound]
    calc
      |a.toRat| / |b.toRat| ≤ |a.toRat| / (1 / 16) :=
        div_le_div_of_nonneg_left (abs_nonneg _) (by norm_num) (Quantity.sixteenth_le_abs_toRat hb0)
      _ = |a.toRat| * 16 := by rw [one_div, div_inv_eq_mul]
      _ ≤ 10 ^ (k + 1) * 10 ^ (m + 1) :=
        mul_le_mul ha (le_trans (by norm_num) hten) (by norm_num) (by positivity)

namespace Expression

/-- A running total stays within the bound of the characters that are read. -/
theorem abs_foldFrom_le {pieces : List Piece} {rest : List (Operator × Operand)}
    (hpairs : WritesPairs pieces rest) (hforms : HasNumberForms (pieces.flatMap Piece.tokens))
    {total q : Quantity} {k : Nat} (htotal : |total.toRat| ≤ (10 : Rat) ^ (k + 1))
    (hfold : foldFrom total rest = .ok q) :
    |q.toRat| ≤ (10 : Rat) ^ (k + leastLength (pieces.flatMap Piece.tokens) + 1) := by
  induction hpairs generalizing total k with
  | nil =>
    cases hfold
    exact htotal
  | @cons pieces operand rest piece writes pairs ih =>
    rw [List.flatMap_cons] at hforms ⊢
    have hoperand : HasNumberForms piece.operand := hforms.of_subset fun _ h =>
      List.mem_append_left _ (List.mem_cons_of_mem _ h)
    obtain ⟨next, hnext, hfold⟩ := bind_eq_ok_iff.mp hfold
    have hstep := Operator.abs_apply_le (leastLength_pos hoperand writes.ne_nil) htotal
      (Operand.abs_quantity_le (writes.abs_magnitude_le hoperand)) hnext
    have hrest := ih (hforms.of_subset (List.subset_append_right _ _)) hstep hfold
    have hpiece : leastLength piece.tokens = 1 + leastLength piece.operand := by
      rw [Piece.tokens, leastLength_cons]
      rfl
    rwa [leastLength_append, hpiece, ← Nat.add_assoc k]

/-- The final quantity is within the bound of all characters. -/
theorem Cut.Writes.abs_fold_le {c : Cut} {e : Expression} (h : c.Writes e)
    (hforms : HasNumberForms c.tokens) {q : Quantity} (hfold : e.fold = .ok q) :
    |q.toRat| ≤ (10 : Rat) ^ (leastLength c.tokens + 1) := by
  have hfirst := Operand.abs_quantity_le
    (h.first.abs_magnitude_le (hforms.of_subset (List.subset_append_left _ _)))
  rw [Cut.tokens, leastLength_append]
  exact abs_foldFrom_le h.pairs (hforms.of_subset (List.subset_append_right _ _)) hfirst hfold

end Expression

end TapeMeasure
