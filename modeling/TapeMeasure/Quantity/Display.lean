import TapeMeasure.Decimal.Display
import TapeMeasure.Double
import TapeMeasure.Quantity

/-!
# Displayed quantities

A final quantity is shown in three forms: in feet and inches, in inches as a decimal, and as a
binary double.  Very large quantities cannot be shown in each of them.

* `feetInches`: `3' 2 1/2"`, without what is zero.
* `toDecimal`: the exact number of inches as a decimal.
* `toDouble`: the nearest double.
* `display`: the three forms together, made in a fixed order, so that the first form that fails
  gives the fault.
-/

namespace TapeMeasure

open Text

namespace Quantity

/-- The reasons for which a quantity cannot be displayed. -/
inductive DisplayFault where
  /-- The decimal form needs too large an exponent. -/
  | exponentTooLarge
  /-- The decimal form needs more digits than its precision allows. -/
  | tooManyDigits
  /-- A whole number has more digits than are ever written. -/
  | integerTooLong
  /-- The nearest double is not finite. -/
  | doubleTooLarge
  deriving DecidableEq, Repr

/-- The number of digits up to which whole numbers are written. -/
def maxIntegerDigits : Nat :=
  4300

/-- An upper bound for the number of decimal digits of a whole number, from its binary ones. -/
def integerDigits (n : Int) : Nat :=
  (if n = 0 then 0 else Nat.log2 n.natAbs + 1) / 3 + 1

/-- The digits of a number, if there are not too many. -/
def boundedDigits (n : Nat) : Except DisplayFault (List Char) :=
  let digits := digitsOfNat n
  if digits.length ≤ maxIntegerDigits then .ok digits else .error .integerTooLong

/-- The places of a fraction with an allowed denominator; four of them suffice. -/
def fractionDecimal (numerator denominator : Nat) : Decimal :=
  Decimal.normalize ⟨false, numerator * (10000 / denominator), -Decimal.displayPlaces⟩

/-- The exact number of inches as a decimal. The precision has room for the whole inches, four
places and one more digit. -/
def toDecimal (q : Quantity) : Except DisplayFault Decimal :=
  let precision := integerDigits q.whole + Decimal.displayPlaces + 1
  match Decimal.add precision (Decimal.ofNat q.whole)
      (fractionDecimal q.numerator q.denominator) with
  | .ok value => .ok (value.withSign q.negative)
  | .error .overflow => .error .exponentTooLarge
  | .error .tooManyDigits => .error .tooManyDigits

/-- The displayed decimal form. -/
def totalInches (q : Quantity) : Except DisplayFault (List Char) := do
  let value ← q.toDecimal
  match value.display with
  | .ok text => .ok text
  | .error _ => .error .tooManyDigits

/-- The nearest double. -/
def toDouble (q : Quantity) : Except DisplayFault Double :=
  match Double.ofRat? q.toRat with
  | some value => .ok value
  | none => .error .doubleTooLarge

/-- A fraction as it is written. -/
def fractionText (numerator denominator : Nat) : List Char :=
  digitsOfNat numerator ++ '/' :: digitsOfNat denominator

/-- The quantity as whole inches and a fraction. -/
def text (q : Quantity) : List Char :=
  let magnitude :=
    if q.numerator = 0 then digitsOfNat q.whole
    else digitsOfNat q.whole ++ ' ' :: fractionText q.numerator q.denominator
  Decimal.signed q.negative magnitude

/-- The feet with their mark; none if there are none. -/
def feetPart (feet : Nat) : Except DisplayFault (List (List Char)) :=
  if feet = 0 then .ok []
  else do
    let digits ← boundedDigits feet
    return [digits ++ ['\'']]

/-- The inches below a foot with their mark; whole inches of zero are left out before a
fraction. -/
def inchPart (inches numerator denominator : Nat) : List Char :=
  if numerator = 0 then digitsOfNat inches ++ ['"']
  else if inches = 0 then fractionText numerator denominator ++ ['"']
  else digitsOfNat inches ++ ' ' :: fractionText numerator denominator ++ ['"']

/-- The quantity in feet and inches. -/
def feetInches (q : Quantity) : Except DisplayFault (List Char) :=
  if q.isZero then .ok ['0']
  else do
    let feet ← feetPart (q.whole / 12)
    let inches := inchPart (q.whole % 12) q.numerator q.denominator
    return Decimal.signed q.negative ([' '].intercalate (feet ++ [inches]))

/-- The three displayed forms. -/
structure Display where
  feetInches : String
  totalInches : String
  decimal : Double
  deriving DecidableEq, Repr

/-- The three forms of a quantity; outside measurements the first one is the decimal form. -/
def display (measurement : Bool) (q : Quantity) : Except DisplayFault Display := do
  let total ← q.totalInches
  let feetInches ← if measurement then q.feetInches else pure total
  let decimal ← q.toDouble
  return ⟨String.ofList feetInches, String.ofList total, decimal⟩

end Quantity

end TapeMeasure
