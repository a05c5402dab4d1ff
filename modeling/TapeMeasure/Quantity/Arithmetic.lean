import TapeMeasure.Quantity

/-!
# Arithmetic on quantities

Sums and differences are taken over a common denominator of the two fractions, so nothing is
rounded away.  Products, quotients and hundredths are exact rational numbers that are brought back
to the nearest quantity.  Only a division can fail.

* `neg`, `add`, `subtract`, `multiply`, `divide`, `percent`.
* `Parts.neg`: the parts for the other sign as they are computed, before they are checked.
* `ofMixed`: the quantity nearest to a mixed number, which need be neither proper nor reduced.
-/

namespace TapeMeasure

/-- The one way in which arithmetic on quantities fails. -/
inductive ArithmeticFault where
  /-- A divisor is no inches at all. -/
  | divisionByZero
  deriving DecidableEq, Repr

/-- What is said about the failure. -/
def ArithmeticFault.message : ArithmeticFault → String
  | divisionByZero => "Division by zero"

/-- The code of the failure. -/
def ArithmeticFault.code : ArithmeticFault → String
  | divisionByZero => "DIVISION_BY_ZERO"

namespace Quantity

/-- The quantity with the other sign; zero stays zero. -/
def neg (q : Quantity) : Quantity where
  negative := !q.negative && !q.isZero
  whole := q.whole
  numerator := q.numerator
  denominator := q.denominator
  denominator_dvd := q.denominator_dvd
  numerator_lt := q.numerator_lt
  reduced := q.reduced
  ne_zero_of_negative h := by
    simp only [isZero, Bool.and_eq_true, Bool.not_eq_true', Bool.and_eq_false_iff,
      beq_eq_false_iff_ne] at h
    exact h.2

/-- The parts with the other sign; the parts of zero are kept. -/
def Parts.neg (p : Parts) : Parts :=
  if p.whole = 0 ∧ p.numerator = 0 then p else { p with negative := !p.negative }

/-- A denominator that the fractions of both quantities can be written with. -/
def commonDenominator (a b : Quantity) : Nat :=
  min (Nat.lcm a.denominator b.denominator) 16

/-- How many parts of the given denominator a quantity holds. -/
def numeratorOver (d : Nat) (q : Quantity) : Int :=
  roundHalfAway (q.toRat * (d : Rat))

/-- The sum. -/
def add (a b : Quantity) : Quantity :=
  let d := commonDenominator a b
  ofRat (((a.numeratorOver d + b.numeratorOver d : Int) : Rat) / (d : Rat))

/-- The difference. -/
def subtract (a b : Quantity) : Quantity :=
  let d := commonDenominator a b
  ofRat (((a.numeratorOver d - b.numeratorOver d : Int) : Rat) / (d : Rat))

/-- The product in inches. -/
def multiply (a b : Quantity) : Quantity :=
  ofRat (a.toRat * b.toRat)

/-- The quotient in inches, if the divisor is not zero. -/
def divide (a b : Quantity) : Except ArithmeticFault Quantity :=
  if b.isZero then .error .divisionByZero else .ok (ofRat (a.toRat / b.toRat))

/-- One hundredth. -/
def percent (q : Quantity) : Quantity :=
  ofRat (q.toRat / 100)

/-- The quantity nearest to a whole number and a fraction with a positive denominator, negated on
demand. -/
def ofMixed (negative : Bool) (whole numerator denominator : Int) : Except Fault Quantity :=
  if denominator ≤ 0 then .error .denominatorNotPositive
  else
    let value := (whole : Rat) + (numerator : Rat) / (denominator : Rat)
    .ok (ofRat (if negative then -value else value))

/-- A division fails exactly if the divisor is zero. -/
theorem divide_eq_error_iff {a b : Quantity} {fault : ArithmeticFault} :
    a.divide b = .error fault ↔ b.isZero = true := by
  cases fault
  by_cases h : b.isZero = true <;> simp [divide, h]

end Quantity

end TapeMeasure
