/-!
# Code points

A text that arrives from outside is a list of code points.  Most stand for a character; a half of a
surrogate pair does so only beside its other half.

* `codePoints`: the code points of characters, none of which is a half.
* `joinPairs`: halves that stand side by side made one code point.
* `characters`: the characters of code points, with every half replaced.
-/

namespace TapeMeasure.Text

/-- Whether a code point is the first half of a pair. -/
def isHighHalf (point : Nat) : Bool :=
  0xD800 ≤ point && point ≤ 0xDBFF

/-- Whether a code point is the second half of a pair. -/
def isLowHalf (point : Nat) : Bool :=
  0xDC00 ≤ point && point ≤ 0xDFFF

/-- Whether a code point is half of a pair, and so no character. -/
def isHalf (point : Nat) : Bool :=
  isHighHalf point || isLowHalf point

/-- The code point that two halves stand for. -/
def joinHalves (high low : Nat) : Nat :=
  0x10000 + (high - 0xD800) * 0x400 + (low - 0xDC00)

/-- The code points for units of sixteen bits; a half without its other half stays. -/
def joinPairs : List Nat → List Nat
  | high :: low :: units =>
    if isHighHalf high && isLowHalf low then joinHalves high low :: joinPairs units
    else high :: joinPairs (low :: units)
  | units => units

/-- The code points of characters. -/
def codePoints (cs : List Char) : List Nat :=
  cs.map Char.toNat

/-- The characters of code points; a half is replaced. -/
def characters (points : List Nat) : List Char :=
  points.map fun point => if isHalf point then '\uFFFD' else Char.ofNat point

/-- No character is half of a pair. -/
theorem isHalf_toNat (c : Char) : isHalf c.toNat = false := by
  have valid : c.toNat < 0xD800 ∨ 0xDFFF < c.toNat ∧ c.toNat < 0x110000 := c.valid
  simp only [isHalf, isHighHalf, isLowHalf, Bool.or_eq_false_iff, Bool.and_eq_false_iff,
    decide_eq_false_iff_not]
  omega

/-- Characters are found again in their code points. -/
theorem characters_codePoints (cs : List Char) : characters (codePoints cs) = cs := by
  simp [characters, codePoints, isHalf_toNat, Function.comp_def]

end TapeMeasure.Text
