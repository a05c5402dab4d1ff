/-!
# Abbreviated texts

Addresses are logged by their beginning only.  `abbreviate` keeps a number of characters and marks
the cut with three points; a text that is short enough stays whole, and an empty one is left out.
-/

namespace TapeMeasure.Text

/-- The first `length` characters; a negative length counts the characters to leave off. -/
def firstChars (length : Int) (cs : List Char) : List Char :=
  if 0 ≤ length then cs.take length.toNat else cs.take (cs.length - length.natAbs)

/-- A text cut to `length` characters, with three points where something was cut off. -/
def abbreviate (length : Int) (text : Option String) : Option String :=
  match text with
  | none => none
  | some s =>
    if s.isEmpty then none
    else if (s.length : Int) ≤ length then some s
    else some (String.ofList (firstChars length s.toList) ++ "...")

@[simp] theorem abbreviate_none (length : Int) : abbreviate length none = none := rfl

/-- A text that fits is logged as it is. -/
theorem abbreviate_eq_self {length : Int} {s : String} (ne : s.isEmpty = false)
    (fits : (s.length : Int) ≤ length) : abbreviate length (some s) = some s := by
  simp [abbreviate, ne, fits]

end TapeMeasure.Text
