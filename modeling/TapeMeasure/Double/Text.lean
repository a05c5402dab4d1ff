import TapeMeasure.Double

/-!
# Doubles in messages

Waiting times are written with one place, rounded from the exact binary value; a half goes to the
even neighbour.  A negative number keeps its sign where it rounds to zero.
-/

namespace TapeMeasure

open Text

namespace Double

/-- A number of tenths, written with one place. -/
def tenthsText (tenths : Nat) : List Char :=
  digitsOfNat (tenths / 10) ++ '.' :: digitsOfNat (tenths % 10)

/-- A number written with one place. -/
def onePlace : Double → String
  | .finite negative units =>
    let text := tenthsText (quotientHalfEven (units * 10) unitsPerOne)
    String.ofList (if negative then '-' :: text else text)
  | .infinite negative => if negative then "-inf" else "inf"
  | .nan => "nan"

end Double

end TapeMeasure
