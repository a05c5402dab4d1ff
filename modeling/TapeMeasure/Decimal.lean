import TapeMeasure.Text.Digit

/-!
# Decimal numbers

A decimal number is a sign, a coefficient and a power of ten, and keeps the number of places that
it was written with: `1.50` and `1.5` are equal in value and differ as decimals.

* `toRat`: the value.
* `adjusted`: the power of ten of the leading digit.
* `parse?`: the decimal that a literal writes: an optional sign, digits with at most one point and
  at least one digit, and an optional exponent.
* `parse?_point`, `parse?_digits`: how the two forms that occur in expressions are read.
-/

namespace TapeMeasure

open Text

/-- The number `± coefficient · 10 ^ exponent`. -/
structure Decimal where
  negative : Bool
  coefficient : Nat
  exponent : Int
  deriving DecidableEq, Repr

namespace Decimal

/-- The value of a decimal number. -/
def toRat (d : Decimal) : Rat :=
  let magnitude := (d.coefficient : Rat) * (10 : Rat) ^ d.exponent
  if d.negative then -magnitude else magnitude

/-- How many digits the coefficient has; zero has one. -/
def digitCount (d : Decimal) : Nat :=
  digitLength d.coefficient

theorem digitCount_eq (d : Decimal) : d.digitCount = (digitsOfNat d.coefficient).length :=
  digitLength_eq d.coefficient

theorem digitCount_pos (d : Decimal) : 0 < d.digitCount := by
  rw [digitCount_eq]
  exact List.length_pos_iff.2 (digitsOfNat_ne_nil d.coefficient)

/-- The power of ten that the leading digit stands for. -/
def adjusted (d : Decimal) : Int :=
  d.exponent + d.digitCount - 1

/-- The decimal number for a natural number. -/
def ofNat (n : Nat) : Decimal :=
  ⟨false, n, 0⟩

/-- The same number with the given sign. -/
def withSign (negative : Bool) (d : Decimal) : Decimal :=
  { d with negative }

/-! ## Literals -/

/-- A sign at the front of a text, with what follows it. -/
def splitSign : List Char → Bool × List Char
  | '-' :: cs => (true, cs)
  | '+' :: cs => (false, cs)
  | cs => (false, cs)

/-- The places after a point at the front of a text, with what follows them. -/
def splitPlaces : List Char → List Char × List Char
  | '.' :: cs => (cs.takeWhile Char.isDigit, cs.dropWhile Char.isDigit)
  | cs => ([], cs)

/-- The exponent that a text consists of; the empty text is the exponent zero. -/
def parseExponent? : List Char → Option Int
  | [] => some 0
  | c :: cs =>
    if c = 'e' ∨ c = 'E' then
      let (negative, digits) := splitSign cs
      if digits ≠ [] ∧ digits.all Char.isDigit then
        some (if negative then -(natOfDigits digits : Int) else natOfDigits digits)
      else none
    else none

/-- The decimal that a literal without sign writes. -/
def parseUnsigned? (cs : List Char) : Option Decimal :=
  let whole := cs.takeWhile Char.isDigit
  let (places, rest) := splitPlaces (cs.dropWhile Char.isDigit)
  if whole ++ places = [] then none
  else (parseExponent? rest).map fun e =>
    ⟨false, natOfDigits (whole ++ places), e - places.length⟩

/-- The decimal that a literal writes. -/
def parse? (cs : List Char) : Option Decimal :=
  let (negative, digits) := splitSign cs
  (parseUnsigned? digits).map (withSign negative)

theorem splitSign_of_isDigit {c : Char} (cs : List Char) (h : c.isDigit = true) :
    splitSign (c :: cs) = (false, c :: cs) := by
  unfold splitSign
  split
  · simp_all
  · simp_all
  · rfl

/-- A literal that starts with a digit or a point has no sign. -/
theorem splitSign_append_point {whole : List Char} (hw : ∀ c ∈ whole, c.isDigit = true)
    (cs : List Char) : splitSign (whole ++ '.' :: cs) = (false, whole ++ '.' :: cs) := by
  cases whole with
  | nil => rfl
  | cons c whole => exact splitSign_of_isDigit _ (hw c (by simp))

/-- A run of digits is taken whole. -/
theorem takeWhile_isDigit {cs : List Char} (h : ∀ c ∈ cs, c.isDigit = true) :
    cs.takeWhile Char.isDigit = cs := by
  rw [← List.append_nil cs, List.takeWhile_append_of_pos h, List.takeWhile_nil]

/-- Behind a run of digits nothing is left. -/
theorem dropWhile_isDigit {cs : List Char} (h : ∀ c ∈ cs, c.isDigit = true) :
    cs.dropWhile Char.isDigit = [] := by
  rw [← List.append_nil cs, List.dropWhile_append_of_pos h, List.dropWhile_nil]

/-- Digits without a point write a whole number. -/
theorem parse?_digits {whole : List Char} (hw : ∀ c ∈ whole, c.isDigit = true)
    (ne : whole ≠ []) : parse? whole = some ⟨false, natOfDigits whole, 0⟩ := by
  have sign : splitSign whole = (false, whole) := by
    cases whole with
    | nil => exact absurd rfl ne
    | cons c whole => exact splitSign_of_isDigit _ (hw c (by simp))
  simp [parse?, sign, parseUnsigned?, takeWhile_isDigit hw, dropWhile_isDigit hw, splitPlaces,
    ne, parseExponent?, withSign]

/-- Digits around a point write a number with as many places as digits follow the point. -/
theorem parse?_point {whole places : List Char} (hw : ∀ c ∈ whole, c.isDigit = true)
    (hp : ∀ c ∈ places, c.isDigit = true) (ne : whole ++ places ≠ []) :
    parse? (whole ++ '.' :: places) =
      some ⟨false, natOfDigits (whole ++ places), -(places.length : Int)⟩ := by
  have front : (whole ++ '.' :: places).takeWhile Char.isDigit = whole := by
    rw [List.takeWhile_append_of_pos hw]
    simp
  have back : (whole ++ '.' :: places).dropWhile Char.isDigit = '.' :: places := by
    rw [List.dropWhile_append_of_pos hw]
    simp
  simp only [parse?, splitSign_append_point hw, parseUnsigned?, front, back, splitPlaces,
    takeWhile_isDigit hp, dropWhile_isDigit hp, if_neg ne, parseExponent?, Option.map_some,
    withSign]
  simp

end Decimal

end TapeMeasure
