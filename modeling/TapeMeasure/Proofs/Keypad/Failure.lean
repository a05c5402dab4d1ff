import TapeMeasure.Proofs.Keypad.Consistency

/-!
# Calculations without an answer

A calculation that gives no answer leaves the display, the last answer and the mark of a calculation
as they are.  It also leaves the expression, unless a new one was entered along with it, which stays
although there is no answer to it.  Right after an earlier answer the next key starts over and does
not see the difference; otherwise it goes on from the new expression.

* `accept_of_result?`: only an answer is taken over.
* `compute_of_result?`, `enterAndCompute_of_result?`: the sessions after both ways to calculate.
* `append_retyped_iff`, `appendOperator_retyped_iff`, `appendFraction_retyped`: when the next key
  sees a different expression.
* `pressAll_failure`: what a calculation without an answer leaves of a session that can be reached,
  and when that is everything.
-/

namespace TapeMeasure

namespace Keypad

variable {s : Session} {value : String}

/-! ## The session after a calculation -/

theorem accept_of_result? {outcome : Outcome} (h : outcome.result? = none) :
    s.accept outcome = s := by
  cases outcome with
  | answer result => cases h
  | failure event => rfl
  | breakdown => rfl

theorem compute_of_result? (h : s.compute.1.result? = none) : s.compute.2 = s :=
  accept_of_result? h

/-- The entered expression stays although there is no answer to it. -/
theorem enterAndCompute_of_result? (h : (s.enterAndCompute value).1.result? = none) :
    (s.enterAndCompute value).2 = { s with expression := value } :=
  accept_of_result? h

theorem retyped_eq_iff : ({ s with expression := value } : Session) = s ↔ value = s.expression := by
  constructor
  · intro h
    exact congrArg Session.expression h
  · rintro rfl
    rfl

/-! ## The next key -/

/-- A digit behind another expression is the same only where a new one starts anyway. -/
theorem append_retyped_iff (key : String) :
    Session.append key { s with expression := value } = s.append key ↔
      s.justCalculated = true ∨ value = s.expression := by
  rw [Session.append, Session.append]
  cases hjust : s.justCalculated with
  | true => exact iff_of_true rfl (Or.inl rfl)
  | false =>
    rw [if_neg Bool.false_ne_true, if_neg Bool.false_ne_true]
    constructor
    · intro h
      exact Or.inr ((String.append_left_inj key).mp (congrArg Session.expression h))
    · rintro (hjust | rfl)
      · exact absurd hjust Bool.false_ne_true
      · rfl

/-- So is an operator, since a session that has just calculated has an answer. -/
theorem appendOperator_retyped_iff (h : Consistent s) (op : String) :
    Session.appendOperator op { s with expression := value } = s.appendOperator op ↔
      s.justCalculated = true ∨ value = s.expression := by
  rw [Session.appendOperator, Session.appendOperator]
  cases hjust : s.justCalculated with
  | true =>
    obtain ⟨result, hresult⟩ := h.lastResult_of_justCalculated hjust
    rw [hresult]
    exact iff_of_true rfl (Or.inl rfl)
  | false =>
    constructor
    · intro hsame
      exact Or.inr ((String.append_left_inj _).mp (congrArg Session.expression hsame))
    · rintro (hjust | rfl)
      · exact absurd hjust Bool.false_ne_true
      · rfl

theorem appendFraction_retyped (h : Consistent s) (hjust : s.justCalculated = true)
    (fraction : String) :
    Session.appendFraction fraction { s with expression := value } = s.appendFraction fraction := by
  obtain ⟨result, hresult⟩ := h.lastResult_of_justCalculated hjust
  rw [Session.appendFraction, Session.appendFraction]
  simp only [hjust, hresult, Option.isSome_some, Bool.and_self, if_true]

/-! ## Sessions that can be reached -/

/-- **A calculation without an answer.** It leaves a session as it is.  If an expression was entered
along with it, the session has that expression afterwards and is otherwise as it was, so it is left
as it is exactly if the expression is the one that it had.  The next key does the same as without
the calculation if another one had just given an answer; else a digit or an operator does the same
exactly if the expression is the one that the session had. -/
theorem pressAll_failure (keys : List Key) :
    let s := Session.empty.pressAll keys
    (s.compute.1.result? = none → s.compute.2 = s) ∧
      ∀ value, (s.enterAndCompute value).1.result? = none →
        let failed := (s.enterAndCompute value).2
        (failed = s ↔ value = s.expression) ∧
          failed.expression = value ∧ failed.display = s.display ∧
          failed.lastResult = s.lastResult ∧ failed.justCalculated = s.justCalculated ∧
          (∀ key, failed.append key = s.append key ↔
            s.justCalculated = true ∨ value = s.expression) ∧
          (∀ op, failed.appendOperator op = s.appendOperator op ↔
            s.justCalculated = true ∨ value = s.expression) ∧
          (s.justCalculated = true → ∀ fraction,
            failed.appendFraction fraction = s.appendFraction fraction) := by
  intro s
  have hconsistent : Consistent s := consistent_empty.pressAll keys
  refine ⟨compute_of_result?, fun value hfailed => ?_⟩
  rw [enterAndCompute_of_result? hfailed]
  exact ⟨retyped_eq_iff, rfl, rfl, rfl, rfl, append_retyped_iff,
    appendOperator_retyped_iff hconsistent, appendFraction_retyped hconsistent⟩

/-- Behind a typed `5`, entering a text that cannot be calculated replaces the `5`, and the digit
typed next stands behind that text. -/
theorem enterAndCompute_retypes :
    let s := Session.empty.pressAll [.append "5"]
    (s.enterAndCompute "x").1.result? = none ∧ (s.enterAndCompute "x").2 ≠ s ∧
      ((s.enterAndCompute "x").2.append "3").expression = "x3" ∧
      (s.append "3").expression = "53" := by
  decide +kernel

end Keypad

end TapeMeasure
