import TapeMeasure.Decimal

/-!
# The text of a decimal number

Two notations are in use.  The plain one (`plain`) writes all digits and never an exponent.  The
short one (`short`) is plain for numbers with places whose leading digit stands for a millionth or
more, and otherwise writes one digit, the remaining ones after a point, and the exponent.

* `unsignedPlain`, `unsignedShort`: the notations of the magnitude.
* `point_mem_unsignedPlain`: where the plain notation has a point.
-/

namespace TapeMeasure

open Text

namespace Decimal

/-- Digits with a point behind the first `left` of them; zeros fill the places that the digits do
not reach. -/
def placePoint (digits : List Char) (left : Int) : List Char :=
  if left ≤ 0 then '0' :: '.' :: (List.replicate left.natAbs '0' ++ digits)
  else if (digits.length : Int) ≤ left then
    digits ++ List.replicate (left - digits.length).toNat '0'
  else digits.take left.toNat ++ '.' :: digits.drop left.toNat

/-- The magnitude with all its digits and no exponent. -/
def unsignedPlain (d : Decimal) : List Char :=
  placePoint (digitsOfNat d.coefficient) (d.exponent + d.digitCount)

/-- A whole number with its sign, the plus included. -/
def signedExponent (e : Int) : List Char :=
  (if e < 0 then '-' else '+') :: digitsOfNat e.natAbs

/-- Whether the short notation does without an exponent. -/
def isPlainInShort (d : Decimal) : Bool :=
  d.exponent ≤ 0 && -6 ≤ d.adjusted

/-- The magnitude in the short notation. -/
def unsignedShort (d : Decimal) : List Char :=
  if d.isPlainInShort then unsignedPlain d
  else placePoint (digitsOfNat d.coefficient) 1 ++ 'E' :: signedExponent d.adjusted

/-- A minus sign in front of a negative number. -/
def signed (negative : Bool) (magnitude : List Char) : List Char :=
  if negative then '-' :: magnitude else magnitude

@[simp] theorem signed_false (magnitude : List Char) : signed false magnitude = magnitude := rfl

theorem signed_append (negative : Bool) (cs ds : List Char) :
    signed negative (cs ++ ds) = signed negative cs ++ ds := by
  cases negative <;> rfl

/-- The plain notation. -/
def plain (d : Decimal) : List Char :=
  signed d.negative d.unsignedPlain

/-- The short notation. -/
def short (d : Decimal) : List Char :=
  signed d.negative d.unsignedShort

/-- A digit is no point. -/
theorem point_notMem_digitsOfNat (n : Nat) : '.' ∉ digitsOfNat n := fun h =>
  absurd (isDigit_of_mem_digitsOfNat h) (by decide)

/-- The point is written exactly where digits remain behind it. -/
theorem point_mem_placePoint {digits : List Char} (hd : '.' ∉ digits) (left : Int) :
    '.' ∈ placePoint digits left ↔ left ≤ 0 ∨ left < digits.length := by
  simp only [placePoint]
  split
  · simp [*]
  · split
    · simp only [List.mem_append, hd, List.mem_replicate, false_or]
      constructor
      · rintro ⟨-, h⟩; exact absurd h (by decide)
      · omega
    · simp only [List.mem_append, List.mem_cons, true_or, or_true, true_iff]
      omega

/-- The plain notation has a point exactly if there are places. -/
theorem point_mem_unsignedPlain (d : Decimal) : '.' ∈ d.unsignedPlain ↔ d.exponent < 0 := by
  rw [unsignedPlain, point_mem_placePoint (point_notMem_digitsOfNat _)]
  have hcount := d.digitCount_pos
  rw [digitCount_eq] at hcount ⊢
  omega

end Decimal

end TapeMeasure
