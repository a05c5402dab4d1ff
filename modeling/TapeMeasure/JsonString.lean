import TapeMeasure.Text.CodePoint

/-!
# Strings of JSON values

A JSON string may hold half of a surrogate pair without the other half.  Such a string is no text,
and it is kept apart as broken.

* `JsonString.ofPoints`: the string of code points, whole if it can be.
* `JsonString.text`: the text of a string, with every half replaced.
-/

namespace TapeMeasure

open Text

/-- A string of a JSON value. -/
inductive JsonString where
  | whole (text : String)
  /-- Code points that are no text, for one of them is half of a pair. -/
  | broken (points : List Nat)
  deriving DecidableEq, Repr

namespace JsonString

instance : Coe String JsonString :=
  ⟨whole⟩

/-- The string of code points. -/
def ofPoints (points : List Nat) : JsonString :=
  if points.any isHalf then broken points else whole (String.ofList (characters points))

/-- Whether a string is a text. -/
def isWhole : JsonString → Bool
  | whole _ => true
  | broken _ => false

/-- How many code points a string has. -/
def length : JsonString → Nat
  | whole text => text.length
  | broken points => points.length

/-- The text of a string, with every half replaced. -/
def text : JsonString → String
  | whole text => text
  | broken points => String.ofList (characters points)

/-- The code points of a text make it again. -/
theorem ofPoints_codePoints (cs : List Char) : ofPoints (codePoints cs) = String.ofList cs := by
  have none : (codePoints cs).any isHalf = false := by
    simp [codePoints, isHalf_toNat]
  simp [ofPoints, none, characters_codePoints]

end JsonString

end TapeMeasure
