import TapeMeasure.Decimal.Precision
import TapeMeasure.Decimal.Text

/-!
# Displayed decimals

A number is displayed with four places at most, rounded with a half away from zero, without
trailing zeros and without exponent.  Zero is `0`, also where a negative number rounds to it.
-/

namespace TapeMeasure

namespace Decimal

/-- The precision that a number is displayed with: its digits before the point, the four places,
and one digit for a carry. -/
def displayPrecision (d : Decimal) : Nat :=
  (max d.adjusted 0).toNat + displayPlaces + 2

/-- The displayed text of a number. -/
def display (d : Decimal) : Except PrecisionFault (List Char) :=
  (d.toFourPlaces d.displayPrecision).map fun rounded =>
    let trimmed := rounded.normalize
    if trimmed.coefficient = 0 then ['0'] else trimmed.plain

end Decimal

end TapeMeasure
