import TapeMeasure.Record

/-!
# Requests to calculate

A request carries an expression and says how it was entered.  What arrives is checked against this
declaration by the framework, which calls `Request.checkLength` for the expression.
-/

namespace TapeMeasure

namespace Service

/-- A request to calculate an expression. -/
structure Request where
  expression : String
  inputMethod : InputMethod
  deriving DecidableEq, Repr

namespace Request

/-- The input method of a request that does not say how it was entered. -/
def defaultInputMethod : InputMethod :=
  .keypad

/-- An expression of at most `maxLength` characters, or what is said about a longer one. -/
def checkLength (maxLength : Int) (expression : String) : Except String String :=
  if maxLength < (expression.length : Int) then .error "expression exceeds max length"
  else .ok expression

/-- An expression passes as it is, if it is not too long. -/
theorem checkLength_eq_ok_iff {maxLength : Int} {expression checked : String} :
    checkLength maxLength expression = .ok checked ↔
      expression = checked ∧ (checked.length : Int) ≤ maxLength := by
  rw [checkLength]
  split <;> rename_i hlength
  · refine iff_of_false nofun ?_
    rintro ⟨rfl, hle⟩
    omega
  · rw [Except.ok.injEq, ← Int.not_lt]
    exact ⟨fun h => ⟨h, h ▸ hlength⟩, fun h => h.1⟩

end Request

end Service

end TapeMeasure
