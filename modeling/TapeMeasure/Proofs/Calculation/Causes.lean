import TapeMeasure.Event
import TapeMeasure.Proofs.Calculation.RoundTrip
import TapeMeasure.Proofs.Expression.Divisor
import TapeMeasure.Proofs.Quantity.Range

/-!
# Why a calculation has no answer

A calculation has no answer for four reasons: the text has no tokens, the tokens write no
expression, a divisor is zero, or the final quantity has no double.  Each is reported by one event,
and an answer by none.

* `Folds`: the final quantity of a text, before it is displayed.
* `calculate_of_large`, `exists_answer_of_lt`: what becomes of a final quantity.
* `Reports`: what an event says; `reports_failed` and `member?_expression_failed` read it off a
  failure.
* `exists_cause_of_result?`, `exists_answer_of_result?`: a reason for no answer, or the answer.
* `calculate_causes`: the four reasons, their events, and the answer otherwise.
-/

namespace TapeMeasure

open Text

/-! ## The final quantity -/

/-- A text has a final quantity, which may be too large to be displayed. -/
def Folds (text : String) (q : Quantity) : Prop :=
  ∃ tokens e, Token.ofText text = .ok tokens ∧ Expression.ofTokens tokens = .ok e ∧ e.fold = .ok q

/-- The final quantity can be computed. -/
theorem folds_iff {text : String} {q : Quantity} :
    Folds text q ↔ ((Token.ofText text).toOption.bind fun tokens =>
      (Expression.ofTokens tokens).toOption.bind fun e => e.fold.toOption) = some q := by
  simp only [Folds, Option.bind_eq_some_iff, toOption_eq_some_iff, exists_and_left]

instance (text : String) (q : Quantity) : Decidable (Folds text q) :=
  decidable_of_iff' _ folds_iff

variable {text : String} {tokens : List Token} {e : Expression} {q : Quantity} {m : Nat}

theorem calculate_of_notExpression {fault : Expression.Fault}
    (htokens : Token.ofText text = .ok tokens) (h : Expression.ofTokens tokens = .error fault) :
    calculate text = .failure (.notExpression text fault) := by
  simp only [calculate, htokens, h]

theorem calculate_of_divisor {operand : Operand} (htokens : Token.ofText text = .ok tokens)
    (hexpression : Expression.ofTokens tokens = .ok e)
    (hmem : (Operator.divide, operand) ∈ e.rest) (hzero : operand.quantity = Quantity.zero) :
    calculate text = .failure (.arithmetic .divisionByZero) := by
  obtain ⟨⟨⟩, hfault⟩ := Expression.exists_foldFrom_error_iff.mpr ⟨operand, hmem, hzero⟩
  have hevaluate : e.evaluate = .error (.arithmetic .divisionByZero) := by
    rw [Expression.evaluate, Expression.fold, hfault]
    rfl
  simp only [calculate, htokens, hexpression, hevaluate]

/-- What becomes of a text is decided by how its final quantity is displayed. -/
theorem exists_answerOf (h : Folds text q) :
    ∃ measurement, calculate text = answerOf text measurement q := by
  obtain ⟨tokens, e, htokens, hexpression, hfold⟩ := h
  have hevaluate : e.evaluate = .ok q := by
    rw [Expression.evaluate, hfold]
    rfl
  exact ⟨isMeasurement tokens, by simp only [calculate, htokens, hexpression, hevaluate]⟩

/-- Where there is no final quantity, there is a reason for it. -/
theorem exists_fault_or_folds (text : String) :
    (∃ fault, Token.ofText text = .error fault) ∨
      (∃ tokens fault, Token.ofText text = .ok tokens ∧
        Expression.ofTokens tokens = .error fault) ∨
      (∃ tokens e operand, Token.ofText text = .ok tokens ∧ Expression.ofTokens tokens = .ok e ∧
        (Operator.divide, operand) ∈ e.rest ∧ operand.quantity = Quantity.zero) ∨
      ∃ q, Folds text q := by
  cases htokens : Token.ofText text with
  | error fault => exact Or.inl ⟨fault, rfl⟩
  | ok tokens =>
    cases hexpression : Expression.ofTokens tokens with
    | error fault => exact Or.inr (Or.inl ⟨tokens, fault, rfl, hexpression⟩)
    | ok e =>
      cases hfold : e.fold with
      | error fault =>
        obtain ⟨operand, hdivisor⟩ := Expression.exists_foldFrom_error_iff.mp ⟨fault, hfold⟩
        exact Or.inr (Or.inr (Or.inl ⟨tokens, e, operand, rfl, hexpression, hdivisor⟩))
      | ok q => exact Or.inr (Or.inr (Or.inr ⟨q, tokens, e, htokens, hexpression, hfold⟩))

/-- A quantity without a double gives no answer. -/
theorem calculate_of_large (h : Folds text q)
    (hmax : (m : Int) ≤ Decimal.maxExponent + 1) (hrange : |q.toRat| < (10 : Rat) ^ m)
    (hlarge : (2 : Rat) ^ 1024 - 2 ^ 970 ≤ |q.toRat|) :
    ∃ fault, calculate text = .failure (.outOfRange text fault) := by
  obtain ⟨measurement, hcalculate⟩ := exists_answerOf h
  obtain ⟨total, htotal⟩ := Quantity.exists_totalInches hmax hrange
  have hdisplay : ∃ fault, q.display measurement = .error fault ∧ fault ≠ .exponentTooLarge := by
    rw [Quantity.display_eq, htotal]
    cases hdecimal : q.toDouble with
    | ok decimal =>
      exact absurd hlarge (not_le.mpr (Quantity.exists_toDouble_iff.mp ⟨decimal, hdecimal⟩))
    | error fault =>
      obtain rfl := Quantity.eq_doubleTooLarge_of_toDouble hdecimal
      cases measurement with
      | false => exact ⟨.doubleTooLarge, rfl, fun heq => nomatch heq⟩
      | true =>
        cases hfeet : q.feetInches with
        | ok feet => exact ⟨.doubleTooLarge, rfl, fun heq => nomatch heq⟩
        | error fault =>
          obtain rfl := Quantity.eq_integerTooLong_of_feetInches hfeet
          exact ⟨.integerTooLong, rfl, fun heq => nomatch heq⟩
  obtain ⟨fault, hfault, hne⟩ := hdisplay
  refine ⟨fault, ?_⟩
  rw [hcalculate]
  unfold answerOf
  rw [hfault]
  cases fault with
  | exponentTooLarge => exact absurd rfl hne
  | _ => rfl

/-- A quantity with a double gives an answer that denotes it exactly. -/
theorem exists_answer_of_lt (h : Folds text q)
    (hmax : (m : Int) ≤ Decimal.maxExponent + 1) (hrange : |q.toRat| < (10 : Rat) ^ m)
    (hlt : |q.toRat| < (2 : Rat) ^ 1024 - 2 ^ 970) :
    ∃ r d, calculate text = .answer r ∧ Decimal.parse? r.totalInches.toList = some d ∧
      d.toRat = q.toRat := by
  obtain ⟨measurement, hcalculate⟩ := exists_answerOf h
  obtain ⟨total, htotal⟩ := Quantity.exists_totalInches hmax hrange
  obtain ⟨feet, hfeet⟩ := Quantity.exists_feetInches_of_lt hlt
  obtain ⟨decimal, hdecimal⟩ := Quantity.exists_toDouble_iff.mpr hlt
  obtain ⟨d, hparse, hvalue⟩ := (Quantity.isCanonicalText_of_totalInches htotal).exists_parse?
  refine ⟨_, d, hcalculate.trans
    (answerOf_of_display (exists_display htotal hfeet hdecimal measurement)), ?_, hvalue⟩
  rw [String.toList_ofList]
  exact hparse

/-! ## Events -/

/-- What an event says: its name, the code of the error, and the position where there is one. -/
structure Reports (event : Event) (name code : String) (position? : Option Int) : Prop where
  name_eq : event.name = name
  code_eq : event.toJson.member? "error_code" = some (.string code)
  position_eq : event.toJson.member? "position" = position?.map .integer

/-- A failure is reported with its name, and with the code and the position of its problem. -/
theorem reports_failed (failure : Failure) :
    Reports (.failed failure) failure.name failure.problem.code failure.problem.position? := by
  refine ⟨rfl, ?_, ?_⟩ <;> cases hexpression : failure.expression? <;>
    cases hposition : failure.problem.position? <;> cases hmessage : failure.message? <;>
      simp [Event.toJson, Event.members, Failure.members, Json.presentMembers, Json.member?,
        Json.lastMember?, hexpression, hposition, hmessage]

/-- A failure is reported with the expression that it names. -/
theorem member?_expression_failed {failure : Failure} {expression : String}
    (h : failure.expression? = some expression) :
    (Event.failed failure).toJson.member? "expression" = some (.string expression) := by
  cases hposition : failure.problem.position? <;> cases hmessage : failure.message? <;>
    simp [Event.toJson, Event.members, Failure.members, Json.presentMembers, Json.member?,
      Json.lastMember?, h, hposition, hmessage]

/-- A failure is no answer, and is reported by one event. -/
theorem events_of_failure {failure : Failure} (h : calculate text = .failure failure) :
    (calculate text).result? = none ∧ (calculate text).events = [.failed failure] := by
  rw [h]
  exact ⟨rfl, rfl⟩

/-! ## The four reasons -/

section

variable (hmax : (m : Int) ≤ Decimal.maxExponent + 1)
  (hrange : ∀ q, Folds text q → |q.toRat| < (10 : Rat) ^ m)

include hmax hrange

/-- Where there is no answer, there is a reason for it. -/
theorem exists_cause_of_result? (h : (calculate text).result? = none) :
    (∃ fault, Token.ofText text = .error fault) ∨
      (∃ tokens fault, Token.ofText text = .ok tokens ∧
        Expression.ofTokens tokens = .error fault) ∨
      (∃ tokens e operand, Token.ofText text = .ok tokens ∧ Expression.ofTokens tokens = .ok e ∧
        (Operator.divide, operand) ∈ e.rest ∧ operand.quantity = Quantity.zero) ∨
      ∃ q, Folds text q ∧ (2 : Rat) ^ 1024 - 2 ^ 970 ≤ |q.toRat| := by
  rcases exists_fault_or_folds text with hcause | hcause | hcause | ⟨q, hq⟩
  · exact Or.inl hcause
  · exact Or.inr (Or.inl hcause)
  · exact Or.inr (Or.inr (Or.inl hcause))
  · refine Or.inr (Or.inr (Or.inr ⟨q, hq, ?_⟩))
    by_contra hsmall
    obtain ⟨r, d, hr, -, -⟩ := exists_answer_of_lt hq hmax (hrange q hq) (not_le.mp hsmall)
    rw [hr] at h
    cases h

/-- An answer denotes the final quantity exactly, and is reported by nothing. -/
theorem exists_answer_of_result? (h : (calculate text).result? ≠ none) :
    ∃ r q d, calculate text = .answer r ∧ (calculate text).events = [] ∧ Folds text q ∧
      Decimal.parse? r.totalInches.toList = some d ∧ d.toRat = q.toRat := by
  rcases exists_fault_or_folds text with ⟨fault, hfault⟩ | ⟨tokens, fault, htokens, hfault⟩ |
    ⟨tokens, e, operand, htokens, he, hmem, hzero⟩ | ⟨q, hq⟩
  · exact absurd (events_of_failure (calculate_of_error hfault)).1 h
  · exact absurd (events_of_failure (calculate_of_notExpression htokens hfault)).1 h
  · exact absurd (events_of_failure (calculate_of_divisor htokens he hmem hzero)).1 h
  · rcases le_or_gt ((2 : Rat) ^ 1024 - 2 ^ 970) |q.toRat| with hlarge | hlt
    · obtain ⟨fault, hfault⟩ := calculate_of_large hq hmax (hrange q hq) hlarge
      exact absurd (events_of_failure hfault).1 h
    · obtain ⟨r, d, hr, hparse, hvalue⟩ := exists_answer_of_lt hq hmax (hrange q hq) hlt
      exact ⟨r, q, d, hr, by rw [hr]; rfl, hq, hparse, hvalue⟩

end

/-- A calculation has no answer if the text has no tokens, if the tokens write no expression, if a
divisor is zero, or if the final quantity has no double, and for no other reason; each of them is
reported by one event, and an answer, which denotes the final quantity exactly, by none. -/
theorem calculate_causes (hrange : ∀ q, Folds text q → |q.toRat| < (10 : Rat) ^ 999999) :
    ((calculate text).result? = none ↔
      (∃ fault, Token.ofText text = .error fault) ∨
      (∃ tokens fault, Token.ofText text = .ok tokens ∧
        Expression.ofTokens tokens = .error fault) ∨
      (∃ tokens e operand, Token.ofText text = .ok tokens ∧ Expression.ofTokens tokens = .ok e ∧
        (Operator.divide, operand) ∈ e.rest ∧ operand.quantity = Quantity.zero) ∨
      ∃ q, Folds text q ∧ (2 : Rat) ^ 1024 - 2 ^ 970 ≤ |q.toRat|) ∧
    (∀ fault, Token.ofText text = .error fault → ∃ event, (calculate text).events = [event] ∧
      Reports event "calculation_failed" "TOKENIZE_ERROR" (some fault.position)) ∧
    (∀ tokens fault, Token.ofText text = .ok tokens → Expression.ofTokens tokens = .error fault →
      ∃ event, (calculate text).events = [event] ∧
        Reports event "calculation_failed" "PARSE_ERROR"
          (some (fault.position.elim (-1) Int.ofNat))) ∧
    (∀ tokens e operand, Token.ofText text = .ok tokens → Expression.ofTokens tokens = .ok e →
      (Operator.divide, operand) ∈ e.rest → operand.quantity = Quantity.zero →
      ∃ event, (calculate text).events = [event] ∧
        Reports event "evaluation_failed" "DIVISION_BY_ZERO" none) ∧
    (∀ q, Folds text q → (2 : Rat) ^ 1024 - 2 ^ 970 ≤ |q.toRat| →
      ∃ event, (calculate text).events = [event] ∧
        Reports event "calculation_failed" "RESULT_OUT_OF_RANGE" none) ∧
    ((calculate text).result? ≠ none →
      ∃ r q d, calculate text = .answer r ∧ (calculate text).events = [] ∧ Folds text q ∧
        Decimal.parse? r.totalInches.toList = some d ∧ d.toRat = q.toRat) := by
  have hmax : ((999999 : Nat) : Int) ≤ Decimal.maxExponent + 1 := by decide
  have hlarge : ∀ q, Folds text q → (2 : Rat) ^ 1024 - 2 ^ 970 ≤ |q.toRat| →
      ∃ fault, calculate text = .failure (.outOfRange text fault) := fun q hq =>
    calculate_of_large hq hmax (hrange q hq)
  refine ⟨⟨exists_cause_of_result? hmax hrange, ?_⟩, ?_, ?_, ?_, ?_,
    exists_answer_of_result? hmax hrange⟩
  · rintro (⟨fault, h⟩ | ⟨tokens, fault, htokens, h⟩ |
      ⟨tokens, e, operand, htokens, he, hmem, hzero⟩ | ⟨q, hq, hq'⟩)
    · exact (events_of_failure (calculate_of_error h)).1
    · exact (events_of_failure (calculate_of_notExpression htokens h)).1
    · exact (events_of_failure (calculate_of_divisor htokens he hmem hzero)).1
    · obtain ⟨fault, hfault⟩ := hlarge q hq hq'
      exact (events_of_failure hfault).1
  · intro fault h
    exact ⟨_, (events_of_failure (calculate_of_error h)).2, reports_failed (.notTokens text fault)⟩
  · intro tokens fault htokens h
    exact ⟨_, (events_of_failure (calculate_of_notExpression htokens h)).2,
      reports_failed (.notExpression text fault)⟩
  · intro tokens e operand htokens he hmem hzero
    exact ⟨_, (events_of_failure (calculate_of_divisor htokens he hmem hzero)).2,
      reports_failed (.arithmetic .divisionByZero)⟩
  · intro q hq hq'
    obtain ⟨fault, hfault⟩ := hlarge q hq hq'
    exact ⟨_, (events_of_failure hfault).2, reports_failed (.outOfRange text fault)⟩

/-- Eight and three quarter inches. -/
def eightThreeQuarters : Quantity :=
  ⟨false, 8, 3, 4, by decide, by decide, by decide, by decide⟩

theorem calculate_causes_eightThreeQuarters :
    ∃ r q d, calculate "5 1/2 + 3 1/4" = .answer r ∧ (calculate "5 1/2 + 3 1/4").events = [] ∧
      Folds "5 1/2 + 3 1/4" q ∧ Decimal.parse? r.totalInches.toList = some d ∧
        d.toRat = q.toRat := by
  have hfolds : ((Token.ofText "5 1/2 + 3 1/4").toOption.bind fun tokens =>
      (Expression.ofTokens tokens).toOption.bind fun e => e.fold.toOption) =
        some eightThreeQuarters := by decide +kernel
  have hrange : ∀ q, Folds "5 1/2 + 3 1/4" q → |q.toRat| < (10 : Rat) ^ 999999 := by
    rintro q ⟨tokens, e, htokens, he, hfold⟩
    simp only [htokens, he, hfold, Except.toOption, Option.bind_some, Option.some.injEq] at hfolds
    rw [hfolds]
    calc
      |eightThreeQuarters.toRat| < (10 : Rat) ^ 1 := by
        norm_num [Quantity.toRat, eightThreeQuarters, abs_lt]
      _ ≤ (10 : Rat) ^ 999999 := pow_le_pow_right₀ (by norm_num) (by decide)
  exact (calculate_causes hrange).2.2.2.2.2 (by decide +kernel)

end TapeMeasure
