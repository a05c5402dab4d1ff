/-!
# Rounding to whole numbers

Three rules are in use.  Measurements go to the nearest whole number of sixteenths, and a value
halfway between two of them goes away from zero (`roundHalfAway`).  Digits that are dropped for
display go up from a half (`quotientHalfUp`).  Digits that do not fit a precision, and the bits of
a binary fraction, go to the even neighbour from a half (`quotientHalfEven`).

The last two divide natural numbers; a divisor is always positive where they are used.
-/

namespace TapeMeasure

/-- The whole number nearest to a rational one; a half goes away from zero. -/
def roundHalfAway (v : Rat) : Int :=
  let magnitude := (v.abs + 1 / 2).floor
  if v < 0 then -magnitude else magnitude

/-- A quotient rounded to the nearest whole number; a half goes up. -/
def quotientHalfUp (n d : Nat) : Nat :=
  (2 * n + d) / (2 * d)

/-- A quotient rounded to the nearest whole number; a half goes to the even one. -/
def quotientHalfEven (n d : Nat) : Nat :=
  let q := n / d
  let r := n % d
  if 2 * r < d then q else if d < 2 * r then q + 1 else q + q % 2

/-- A quotient without remainder is not changed. -/
theorem quotientHalfEven_mul_right (q : Nat) {d : Nat} (pos : 0 < d) :
    quotientHalfEven (q * d) d = q := by
  simp [quotientHalfEven, Nat.mul_div_cancel _ pos, pos]

/-- A quotient without remainder is not changed. -/
theorem quotientHalfUp_mul_right (q : Nat) {d : Nat} (pos : 0 < d) :
    quotientHalfUp (q * d) d = q := by
  rw [quotientHalfUp, show 2 * (q * d) + d = d + q * (2 * d) by
    rw [Nat.mul_left_comm, Nat.add_comm], Nat.add_mul_div_right _ _ (by omega),
    Nat.div_eq_of_lt (by omega), Nat.zero_add]

/-- The rounded quotient is the whole part or the number after it. -/
theorem quotientHalfEven_eq_or (n d : Nat) :
    quotientHalfEven n d = n / d ∨ quotientHalfEven n d = n / d + 1 := by
  simp only [quotientHalfEven]
  split
  · exact Or.inl rfl
  · split
    · exact Or.inr rfl
    · rcases Nat.mod_two_eq_zero_or_one (n / d) with h | h <;> simp [h]

end TapeMeasure
