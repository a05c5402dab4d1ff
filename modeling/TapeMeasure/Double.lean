import TapeMeasure.Rounding
import TapeMeasure.Decimal

/-!
# Binary double precision

Results and clock times are numbers of the 64-bit binary format.  Every finite number of that
format is a whole multiple of the smallest positive one, `2 ^ (-1074)`, so a finite number is a
sign and a count of these units, and sums are exact sums of units that are rounded once.

* `roundUnits`, `ofUnits`: the nearest number with 53 significant bits, a half going to the even
  neighbour; what would need more than the largest exponent is infinite.
* `add`, `sub`, `lt`, `le`: arithmetic and comparison; the order is that of the units.
* `ofRat?`: the nearest number to a rational one, if it is finite.
* `truncate`: the whole part, toward zero.
* `toBits`: the 64 bits of the interchange format.
-/

namespace TapeMeasure

/-- A number of the 64-bit binary format; `finite` counts units of `2 ^ (-1074)`. -/
inductive Double where
  | finite (negative : Bool) (units : Nat)
  | infinite (negative : Bool)
  | nan
  deriving DecidableEq, Repr

namespace Double

/-- Whether a double is a number and not infinite. -/
def isFinite : Double → Bool
  | finite _ _ => true
  | _ => false

/-- How many units make one. -/
def unitsPerOne : Nat :=
  Nat.pow 2 1074

/-- The least count of units that is beyond every finite number. -/
def unitsLimit : Nat :=
  Nat.pow 2 2098

/-- How many bits of a count do not fit the significand. -/
def excessBits (units : Nat) : Nat :=
  Nat.log2 units - 52

/-- The count of units with 53 significant bits that is nearest to `n / d`; a half goes to the
even neighbour. -/
def roundUnits (n d : Nat) : Nat :=
  let step := Nat.pow 2 (excessBits (n / d))
  quotientHalfEven n (d * step) * step

/-- The finite number with a magnitude, or infinity if that is too large. -/
def ofMagnitude (negative : Bool) (units : Nat) : Double :=
  if units < unitsLimit then .finite negative units else .infinite negative

/-- The number nearest to an exact count of units. -/
def ofUnits (units : Int) : Double :=
  ofMagnitude (decide (units < 0)) (roundUnits units.natAbs 1)

/-- The magnitude in units of the number nearest to a rational one. -/
def magnitudeOfRat (v : Rat) : Nat :=
  roundUnits (v.num.natAbs * unitsPerOne) v.den

/-- The number nearest to a rational one; there is none if it is not finite. -/
def ofRat? (v : Rat) : Option Double :=
  if magnitudeOfRat v < unitsLimit then
    some (.finite (decide (v < 0)) (magnitudeOfRat v))
  else none

/-- The number nearest to a decimal one.  Leading digits far outside the range of the format are
decided by their power of ten alone. -/
def ofDecimal (d : Decimal) : Double :=
  if d.coefficient = 0 ∨ d.adjusted < -400 then .finite d.negative 0
  else if 400 < d.adjusted then .infinite d.negative
  else
    let magnitude := d.toRat.abs
    ofMagnitude d.negative (magnitudeOfRat magnitude)

/-- Zero. -/
def zero : Double :=
  .finite false 0

/-- The number nearest to a whole one. -/
def ofInt (n : Int) : Double :=
  ofUnits (n * unitsPerOne)

/-- The signed count of units of a finite number. -/
def signedUnits (negative : Bool) (units : Nat) : Int :=
  if negative then -(units : Int) else units

/-- The number with the other sign. -/
def neg : Double → Double
  | .finite negative units => .finite (!negative) units
  | .infinite negative => .infinite (!negative)
  | .nan => .nan

/-- The sum of finite numbers; two negative zeros give a negative zero. -/
def addFinite (s : Bool) (a : Nat) (t : Bool) (b : Nat) : Double :=
  if s = true ∧ t = true ∧ a = 0 ∧ b = 0 then .finite true 0
  else ofUnits (signedUnits s a + signedUnits t b)

/-- The sum. -/
def add : Double → Double → Double
  | .finite s a, .finite t b => addFinite s a t b
  | .infinite s, .infinite t => if s = t then .infinite s else .nan
  | .infinite s, .finite _ _ => .infinite s
  | .finite _ _, .infinite t => .infinite t
  | .nan, _ => .nan
  | _, .nan => .nan

/-- The difference. -/
def sub (x y : Double) : Double :=
  add x y.neg

/-- The strict order; nothing is less or greater than what is not a number. -/
def lt : Double → Double → Bool
  | .finite s a, .finite t b => signedUnits s a < signedUnits t b
  | .infinite s, .infinite t => s && !t
  | .infinite s, .finite _ _ => s
  | .finite _ _, .infinite t => !t
  | .nan, _ => false
  | _, .nan => false

/-- The order; what is not a number is not in it. -/
def le : Double → Double → Bool
  | .finite s a, .finite t b => signedUnits s a ≤ signedUnits t b
  | .infinite s, .infinite t => s || !t
  | .infinite s, .finite _ _ => s
  | .finite _ _, .infinite t => !t
  | .nan, _ => false
  | _, .nan => false

/-- The number itself if it is positive, else zero. -/
def positivePart (x : Double) : Double :=
  if lt zero x then x else zero

/-- The reasons for which a number has no whole part. -/
inductive TruncationFault where
  | infinite
  | nan
  deriving DecidableEq, Repr

/-- The whole part of a number, toward zero. -/
def truncate : Double → Except TruncationFault Int
  | .finite negative units => .ok (signedUnits negative (units / unitsPerOne))
  | .infinite _ => .error .infinite
  | .nan => .error .nan

/-- The bits of a magnitude: the exponent counts the excess bits, and the leading bit of a number
with excess bits is not stored. -/
def magnitudeBits (units : Nat) : Nat :=
  excessBits units * Nat.pow 2 52 + units / Nat.pow 2 (excessBits units)

/-- The sign bit. -/
def signBit (negative : Bool) : Nat :=
  if negative then Nat.pow 2 63 else 0

/-- The 64 bits of a number, as a natural number. -/
def toBits : Double → Nat
  | .finite negative units => signBit negative + magnitudeBits units
  | .infinite negative => signBit negative + 0x7FF0000000000000
  | .nan => 0x7FF8000000000000

/-- A number without excess bits is exact. -/
theorem roundUnits_one_of_lt {units : Nat} (h : units < Nat.pow 2 53) :
    roundUnits units 1 = units := by
  have excess : excessBits units = 0 := by
    rw [excessBits]
    by_cases h0 : units = 0
    · simp [h0]
    · have := (Nat.log2_lt h0).2 (show units < 2 ^ 53 from h)
      omega
  simp [roundUnits, excess, quotientHalfEven, Nat.mod_one]

end Double

end TapeMeasure
