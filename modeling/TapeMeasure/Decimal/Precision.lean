import TapeMeasure.Decimal
import TapeMeasure.Rounding

/-!
# Decimal arithmetic with a precision

Sums and roundings are made with a given number of significant digits, and the leading digit of a
result may stand for `10 ^ maxExponent` at most.

* `add`: the exact sum, rounded if it has too many digits.
* `toFourPlaces`: a number rounded to ten-thousandths, a half away from zero; the result may not
  have too many digits.
* `normalize`: the same value without trailing zeros.
-/

namespace TapeMeasure

open Text

namespace Decimal

/-- The largest power of ten that the leading digit of a result may stand for. -/
def maxExponent : Int :=
  999999

/-- The ways in which arithmetic with a precision fails. -/
inductive PrecisionFault where
  /-- The leading digit of a result stands for more than `10 ^ maxExponent`. -/
  | overflow
  /-- A number rounded to given places has more digits than the precision allows. -/
  | tooManyDigits
  deriving DecidableEq, Repr

/-- A number rounded to a precision; a half goes to the even neighbour. -/
def roundTo (precision : Nat) (d : Decimal) : Decimal :=
  let extra := d.digitCount - precision
  if extra = 0 then d
  else
    let rounded : Decimal :=
      ⟨d.negative, quotientHalfEven d.coefficient (Nat.pow 10 extra), d.exponent + extra⟩
    if rounded.digitCount ≤ precision then rounded
    else ⟨d.negative, rounded.coefficient / 10, rounded.exponent + 1⟩

/-- A result that is not too large. -/
def checkExponent (d : Decimal) : Except PrecisionFault Decimal :=
  if maxExponent < d.adjusted then .error .overflow else .ok d

/-- The signed coefficient of a number in units of `10 ^ exponent`, which is at most its own
power of ten. -/
def coefficientAt (exponent : Int) (d : Decimal) : Int :=
  let magnitude := d.coefficient * Nat.pow 10 (d.exponent - exponent).toNat
  if d.negative then -(magnitude : Int) else magnitude

/-- The exact sum, written with the places of the summand that has more of them. -/
def exactAdd (a b : Decimal) : Decimal :=
  let exponent := min a.exponent b.exponent
  let sum := a.coefficientAt exponent + b.coefficientAt exponent
  ⟨decide (sum < 0), sum.natAbs, exponent⟩

/-- The sum with a precision. -/
def add (precision : Nat) (a b : Decimal) : Except PrecisionFault Decimal :=
  checkExponent (roundTo precision (exactAdd a b))

/-- How many places a displayed number has at most. -/
def displayPlaces : Nat :=
  4

/-- The coefficient in ten-thousandths; a half goes up. A number that has only zeros down to the
fifth place rounds to zero, whatever follows. -/
def tenThousandths (d : Decimal) : Nat :=
  let shift := d.exponent + displayPlaces
  if d.coefficient = 0 ∨ d.digitCount + shift < 0 then 0
  else if 0 ≤ shift then d.coefficient * Nat.pow 10 shift.toNat
  else quotientHalfUp d.coefficient (Nat.pow 10 shift.natAbs)

/-- A number rounded to four places, a half away from zero, with a precision. -/
def toFourPlaces (precision : Nat) (d : Decimal) : Except PrecisionFault Decimal :=
  let rounded : Decimal := ⟨d.negative, d.tenThousandths, -displayPlaces⟩
  if precision < rounded.digitCount ∨ maxExponent < rounded.adjusted then .error .tooManyDigits
  else .ok rounded

/-- Takes zeros off the end of a positive coefficient. -/
def stripZeros (coefficient : Nat) (exponent : Int) : Nat × Int :=
  if h : coefficient ≠ 0 ∧ coefficient % 10 = 0 then
    stripZeros (coefficient / 10) (exponent + 1)
  else (coefficient, exponent)
termination_by coefficient
decreasing_by omega

/-- The same value without trailing zeros; zero gets the exponent zero. -/
def normalize (d : Decimal) : Decimal :=
  if d.coefficient = 0 then { d with exponent := 0 }
  else
    let (coefficient, exponent) := stripZeros d.coefficient d.exponent
    { d with coefficient, exponent }

/-- A number with no more digits than the precision is not changed. -/
theorem roundTo_eq_self {precision : Nat} {d : Decimal} (h : d.digitCount ≤ precision) :
    roundTo precision d = d := by
  simp [roundTo, Nat.sub_eq_zero_of_le h]

end Decimal

end TapeMeasure
