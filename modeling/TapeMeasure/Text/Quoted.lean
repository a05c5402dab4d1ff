import TapeMeasure.Text.Printable

/-!
# Quoted texts in messages

How a message quotes a text that someone else wrote.  The quotes are single, unless the text
holds a single quote and no double one.  A backslash and the quote in use are escaped, the line
and tab controls have letters, and every other character that cannot be seen is written by its
code in two, four or eight hexadecimal digits.

* `quote`: the quoted text.
* `escape_eq_self`: a character that can be seen, is no backslash and is not the quote stands for
  itself.
-/

namespace TapeMeasure.Text

/-- The lower-case hexadecimal digits of a number, padded with zeros on the left to a width. -/
def hexDigits (width n : Nat) : List Char :=
  let digits := Nat.toDigits 16 n
  List.replicate (width - digits.length) '0' ++ digits

/-- A character as it stands between quotes of the given kind. -/
def escape (mark c : Char) : List Char :=
  if c = '\\' ∨ c = mark then ['\\', c]
  else if c = '\n' then ['\\', 'n']
  else if c = '\r' then ['\\', 'r']
  else if c = '\t' then ['\\', 't']
  else if isPrintable c then [c]
  else if c.toNat < 0x100 then '\\' :: 'x' :: hexDigits 2 c.toNat
  else if c.toNat < 0x10000 then '\\' :: 'u' :: hexDigits 4 c.toNat
  else '\\' :: 'U' :: hexDigits 8 c.toNat

/-- The quotation mark that a text is put between. -/
def quotationMark (cs : List Char) : Char :=
  if '\'' ∈ cs ∧ '"' ∉ cs then '"' else '\''

/-- A text between quotation marks. -/
def quote (cs : List Char) : List Char :=
  let mark := quotationMark cs
  mark :: cs.flatMap (escape mark) ++ [mark]

/-- What can be seen and is neither the backslash nor the mark in use is written as itself. -/
theorem escape_eq_self {mark c : Char} (visible : isPrintable c = true) (backslash : c ≠ '\\')
    (other : c ≠ mark) : escape mark c = [c] := by
  have newline : c ≠ '\n' := by rintro rfl; exact absurd visible (by decide)
  have carriage : c ≠ '\r' := by rintro rfl; exact absurd visible (by decide)
  have tab : c ≠ '\t' := by rintro rfl; exact absurd visible (by decide)
  simp [escape, backslash, other, newline, carriage, tab, visible]

end TapeMeasure.Text
