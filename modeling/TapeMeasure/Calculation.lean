import TapeMeasure.Expression.Parse
import TapeMeasure.Quantity.Display
import TapeMeasure.Token.Scan

/-!
# Calculating an expression

A text is read into tokens, the tokens into an expression, the expression is folded, and the final
quantity is displayed.  Each step can fail, and a failure is an event for the log, not an answer.

* `isMeasurement`: whether a result is shown in feet and inches.
* `Result`: the answer to an expression.
* `Failure`: the event that is logged in place of an answer.
* `Expression.evaluate`: the final quantity, or the failure of the arithmetic.
* `calculate`: the outcome for a text: an answer, a failure, or a breakdown, which is a failure
  that nothing reports.
-/

namespace TapeMeasure

/-- Whether a result is shown in feet and inches. Marks and fractions ask for it; without them a
percent sign or a decimal point asks for plain numbers. -/
def isMeasurement (tokens : List Token) : Bool :=
  tokens.any Token.isMeasure ||
    (!tokens.any Token.isPercent && !tokens.any Token.isPointed)

/-- The answer to an expression. -/
structure Result where
  expression : String
  decimal : Double
  feetInches : String
  totalInches : String
  isInchMode : Bool
  deriving DecidableEq, Repr

/-- The event that is logged when an expression has no answer. -/
inductive Failure where
  /-- The text has no tokens. -/
  | notTokens (expression : String) (fault : Token.Fault)
  /-- The tokens write no expression. -/
  | notExpression (expression : String) (fault : Expression.Fault)
  /-- The arithmetic failed. -/
  | arithmetic (fault : ArithmeticFault)
  /-- The final quantity cannot be displayed. -/
  | outOfRange (expression : String) (fault : Quantity.DisplayFault)
  deriving DecidableEq, Repr

/-- The final quantity of an expression, or the event that the arithmetic failed. -/
def Expression.evaluate (e : Expression) : Except Failure Quantity :=
  e.fold.mapError Failure.arithmetic

/-- What becomes of an expression. -/
inductive Outcome where
  | answer (result : Result)
  | failure (event : Failure)
  /-- The final quantity is too large for its exponent, which is not reported as a failure. -/
  | breakdown
  deriving DecidableEq, Repr

namespace Outcome

/-- The answer, if there is one. -/
def result? : Outcome → Option Result
  | answer result => some result
  | _ => none

/-- The logged failure, if there is one. -/
def failure? : Outcome → Option Failure
  | failure event => some event
  | _ => none

end Outcome

/-- A final quantity as the answer to an expression. -/
def answerOf (expression : String) (measurement : Bool) (q : Quantity) : Outcome :=
  match q.display measurement with
  | .ok shown =>
    .answer ⟨expression, shown.decimal, shown.feetInches, shown.totalInches, measurement⟩
  | .error .exponentTooLarge => .breakdown
  | .error fault => .failure (.outOfRange expression fault)

/-- What becomes of an expression that was entered. -/
def calculate (text : String) : Outcome :=
  match Token.ofText text with
  | .error fault => .failure (.notTokens text fault)
  | .ok tokens =>
    match Expression.ofTokens tokens with
    | .error fault => .failure (.notExpression text fault)
    | .ok expression =>
      match expression.evaluate with
      | .error failure => .failure failure
      | .ok q => answerOf text (isMeasurement tokens) q

end TapeMeasure
