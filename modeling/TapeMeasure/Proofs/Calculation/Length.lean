import TapeMeasure.Proofs.Calculation.Causes
import TapeMeasure.Proofs.Expression.Bound
import TapeMeasure.Service.Settings

/-!
# Short texts have displayable results

A text of `n` characters has a final quantity of `10 ^ (n + 1)` inches at most.  The texts that are
accepted by default are too short for a final quantity without a double.

* `Folds.abs_toRat_le`: the bound.
* `exists_cause_of_length_le`, `exists_failure_of_cause`: why such a text has no answer, and what is
  reported then.
* `calculate_bounded`: both for all texts.
-/

namespace TapeMeasure

variable {text : String} {q : Quantity}

/-- The final quantity of a text is within the bound of its length. -/
theorem Folds.abs_toRat_le (h : Folds text q) : |q.toRat| ≤ (10 : Rat) ^ (text.length + 1) := by
  obtain ⟨tokens, e, htokens, he, hfold⟩ := h
  obtain ⟨c, rfl, hwrites⟩ := Expression.exists_cut_of_ofTokens he
  have hforms : HasNumberForms c.tokens := fun _ _ _ hmem => Token.numberForm_of_mem htokens hmem
  refine (hwrites.abs_fold_le hforms hfold).trans (pow_le_pow_right₀ (by norm_num) ?_)
  exact Nat.succ_le_succ (Token.leastLength_le_of_ofText htokens)

section

variable (hlength : (text.length : Int) ≤ Service.Settings.default.maxExpressionLength)

include hlength

/-- The bound for the longest text that is accepted by default. -/
theorem Folds.abs_toRat_le_of_length_le (h : Folds text q) : |q.toRat| ≤ (10 : Rat) ^ 257 := by
  have hle : text.length + 1 ≤ 257 := by
    have hdefault : Service.Settings.default.maxExpressionLength = 256 := rfl
    omega
  exact h.abs_toRat_le.trans (pow_le_pow_right₀ (by norm_num) hle)

/-- A text that is accepted by default has an answer, unless it has no tokens, its tokens write no
expression, or a divisor is zero. -/
theorem exists_cause_of_length_le (h : (calculate text).result? = none) :
    (∃ fault, Token.ofText text = .error fault) ∨
      (∃ tokens fault, Token.ofText text = .ok tokens ∧
        Expression.ofTokens tokens = .error fault) ∨
      ∃ tokens e operand, Token.ofText text = .ok tokens ∧ Expression.ofTokens tokens = .ok e ∧
        (Operator.divide, operand) ∈ e.rest ∧ operand.quantity = Quantity.zero := by
  have hrange : ∀ q, Folds text q → |q.toRat| < (10 : Rat) ^ 258 := fun q hq =>
    (hq.abs_toRat_le_of_length_le hlength).trans_lt
      (pow_lt_pow_right₀ (by norm_num) (Nat.lt_succ_self 257))
  rcases exists_cause_of_result? (by decide) hrange h with
    hcause | hcause | hcause | ⟨q, hq, hlarge⟩
  · exact Or.inl hcause
  · exact Or.inr (Or.inl hcause)
  · exact Or.inr (Or.inr hcause)
  · have hpow : 10 ^ 257 + 2 ^ 970 < 2 ^ 1024 := by decide +kernel
    have hsmall : (10 : Rat) ^ 257 < 2 ^ 1024 - 2 ^ 970 :=
      lt_sub_iff_add_lt.mpr (by exact_mod_cast hpow)
    exact absurd (hlarge.trans (hq.abs_toRat_le_of_length_le hlength)) (not_le.mpr hsmall)

end

/-- None of the reasons for which a text has no final quantity is reported as a quantity out of
range. -/
theorem exists_failure_of_cause
    (h : (∃ fault, Token.ofText text = .error fault) ∨
      (∃ tokens fault, Token.ofText text = .ok tokens ∧
        Expression.ofTokens tokens = .error fault) ∨
      ∃ tokens e operand, Token.ofText text = .ok tokens ∧ Expression.ofTokens tokens = .ok e ∧
        (Operator.divide, operand) ∈ e.rest ∧ operand.quantity = Quantity.zero) :
    ∃ failure, calculate text = .failure failure ∧
      failure.problem.code ≠ "RESULT_OUT_OF_RANGE" := by
  rcases h with ⟨fault, hfault⟩ | ⟨tokens, fault, htokens, hfault⟩ |
    ⟨tokens, e, operand, htokens, he, hmem, hzero⟩
  · exact ⟨_, calculate_of_error hfault, (by decide : "TOKENIZE_ERROR" ≠ _)⟩
  · exact ⟨_, calculate_of_notExpression htokens hfault, (by decide : "PARSE_ERROR" ≠ _)⟩
  · exact ⟨_, calculate_of_divisor htokens he hmem hzero, (by decide : "DIVISION_BY_ZERO" ≠ _)⟩

/-- **Results are bounded by the length of the text.**  A final quantity is at most the power of ten
with a zero more than the text has characters.  So a text of the length that is accepted by default
is never out of range: it has no answer only if it has no tokens, its tokens write no expression, or
a divisor is zero. -/
theorem calculate_bounded (text : String) :
    (∀ q, Folds text q → |q.toRat| ≤ (10 : Rat) ^ (text.length + 1)) ∧
    ((text.length : Int) ≤ Service.Settings.default.maxExpressionLength →
      (∀ failure, calculate text = .failure failure →
        failure.problem.code ≠ "RESULT_OUT_OF_RANGE") ∧
      ((calculate text).result? = none ↔
        (∃ fault, Token.ofText text = .error fault) ∨
        (∃ tokens fault, Token.ofText text = .ok tokens ∧
          Expression.ofTokens tokens = .error fault) ∨
        ∃ tokens e operand, Token.ofText text = .ok tokens ∧ Expression.ofTokens tokens = .ok e ∧
          (Operator.divide, operand) ∈ e.rest ∧ operand.quantity = Quantity.zero)) := by
  refine ⟨fun q hq => hq.abs_toRat_le, fun hlength => ⟨fun failure hfailure => ?_, ?_⟩⟩
  · obtain ⟨other, hother, hcode⟩ :=
      exists_failure_of_cause (exists_cause_of_length_le hlength (events_of_failure hfailure).1)
    cases hfailure.symm.trans hother
    exact hcode
  · refine ⟨exists_cause_of_length_le hlength, fun hcause => ?_⟩
    obtain ⟨failure, hfailure, -⟩ := exists_failure_of_cause hcause
    exact (events_of_failure hfailure).1

/-- A divisor of four hundredths is rounded to a sixteenth of an inch, so the quotient has more
digits than the text has. -/
theorem calculate_bounded_sixteenth :
    Folds "9999 / 4%" (.ofSixteenths (159984 * 16)) ∧
      |(Quantity.ofSixteenths (159984 * 16)).toRat| ≤ (10 : Rat) ^ 10 ∧
      (("9999 / 4%".length : Nat) : Int) ≤ Service.Settings.default.maxExpressionLength ∧
      (calculate "9999 / 4%").result? ≠ none := by
  have hfolds : Folds "9999 / 4%" (.ofSixteenths (159984 * 16)) := by decide +kernel
  have hlength : (("9999 / 4%".length : Nat) : Int) ≤
      Service.Settings.default.maxExpressionLength := by decide +kernel
  obtain ⟨hbound, hshort⟩ := calculate_bounded "9999 / 4%"
  refine ⟨hfolds, hbound _ hfolds, hlength, fun hnone => ?_⟩
  obtain ⟨tokens, e, htokens, he, hfold⟩ := hfolds
  rcases (hshort hlength).2.mp hnone with ⟨fault, hfault⟩ | ⟨tokens', fault, htokens', hfault⟩ |
    ⟨tokens', e', operand, htokens', he', hmem, hzero⟩
  · cases htokens.symm.trans hfault
  · cases htokens.symm.trans htokens'
    cases he.symm.trans hfault
  · cases htokens.symm.trans htokens'
    cases he.symm.trans he'
    obtain ⟨fault, hfault⟩ := Expression.exists_foldFrom_error_iff.mpr ⟨operand, hmem, hzero⟩
    cases hfold.symm.trans hfault

end TapeMeasure
