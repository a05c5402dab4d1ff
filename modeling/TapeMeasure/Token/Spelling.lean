import TapeMeasure.Text.Blank
import TapeMeasure.Token

/-!
# How tokens are spelled

Which characters spell a token, and which texts are laid out in tokens and blanks, said without
scanning them.

* `NumberForm`: the ways to write a number: digits, with a point behind, among or before them.
* `Token.Spells`: the characters of a token.
* `Token.LaidOut`: a text that starts at a position is spelled by tokens in order, with nothing but
  blanks between them; a feet mark stands right behind its number, and no digit stands right behind
  a number or a fraction.
-/

namespace TapeMeasure

open Text

namespace Token

/-- The ways to write a number. -/
inductive NumberForm : List Char → Prop
  | whole {digits : List Char} (isDigit : ∀ c ∈ digits, c.isDigit = true) (ne : digits ≠ []) :
    NumberForm digits
  | pointed {whole places : List Char} (wholeDigit : ∀ c ∈ whole, c.isDigit = true)
      (placeDigit : ∀ c ∈ places, c.isDigit = true) (ne : whole ++ places ≠ []) :
    NumberForm (whole ++ '.' :: places)

/-- Digits of a whole number, of which there are not too many. -/
structure WholeForm (digits : List Char) : Prop where
  isDigit : ∀ c ∈ digits, c.isDigit = true
  ne : digits ≠ []
  length_le : digits.length ≤ maxLiteralDigits

/-- The sign in front of a number. -/
def signText (negative : Bool) : List Char :=
  if negative then ['-'] else []

/-- The characters that spell a token. -/
inductive Spells : List Char → Token → Prop
  | number {literal : Literal} (negative : Bool) (position : Nat)
      (form : NumberForm literal.text.toList)
      (size : literal.text.toList.countP Char.isDigit ≤ maxLiteralDigits) :
    Spells (signText negative ++ literal.text.toList) (.number literal negative position)
  | fraction {ratio : Ratio} {above below : List Char} (negative : Bool) (position : Nat)
      (aboveForm : WholeForm above) (belowForm : WholeForm below)
      (numerator_eq : ratio.numerator = natOfDigits above)
      (denominator_eq : ratio.denominator = natOfDigits below) :
    Spells (signText negative ++ above ++ '/' :: below) (.fraction ratio negative position)
  | feetMark (position : Nat) : Spells ['\''] (.feetMark position)
  | inchMark (position : Nat) : Spells ['"'] (.inchMark position)
  | operator (op : Operator) (position : Nat) : Spells [op.symbol] (.operator op position)
  | percent (position : Nat) : Spells ['%'] (.percent position)

/-- Whether a token is a number or a fraction. -/
def isNumeric : Token → Bool
  | number _ _ _ => true
  | fraction _ _ _ => true
  | _ => false

/-- Whether a token is a feet mark. -/
def isFeetMark : Token → Bool
  | feetMark _ => true
  | _ => false

/-- Whether a token is a number or a fraction with a minus sign. -/
def isNegative : Token → Bool
  | number _ negative _ => negative
  | fraction _ negative _ => negative
  | _ => false

/-- No digit stands at the front of a text. -/
def NoDigitFirst (cs : List Char) : Prop :=
  ∀ c ∈ cs.head?, c.isDigit = false

/-- A text that starts at a position is spelled by tokens and blanks. -/
inductive LaidOut : Nat → List Char → List Token → Prop
  | nil (position : Nat) : LaidOut position [] []
  | blank {position : Nat} {c : Char} {cs : List Char} {tokens : List Token}
      (blank : isBlank c = true) (rest : LaidOut (position + 1) cs tokens) :
    LaidOut position (c :: cs) tokens
  | token {spelling cs : List Char} {token : Token} {tokens : List Token}
      (spells : Spells spelling token) (separate : token.isFeetMark = false)
      (closed : token.isNumeric = true → NoDigitFirst cs)
      (rest : LaidOut (token.position + spelling.length) cs tokens) :
    LaidOut token.position (spelling ++ cs) (token :: tokens)
  | feet {spelling cs : List Char} {literal : Literal} {negative : Bool} {position : Nat}
      {tokens : List Token} (spells : Spells spelling (.number literal negative position))
      (rest : LaidOut (position + spelling.length + 1) cs tokens) :
    LaidOut position (spelling ++ '\'' :: cs)
      (.number literal negative position :: .feetMark (position + spelling.length) :: tokens)

/-- A token without its place. -/
def unplaced : Token → Token
  | number literal negative _ => number literal negative 0
  | fraction ratio negative _ => fraction ratio negative 0
  | feetMark _ => feetMark 0
  | inchMark _ => inchMark 0
  | operator op _ => operator op 0
  | percent _ => percent 0

/-- A number is not written by nothing. -/
theorem NumberForm.ne_nil {cs : List Char} (h : NumberForm cs) : cs ≠ [] := by
  cases h with
  | whole isDigit ne => exact ne
  | pointed wholeDigit placeDigit ne => simp

/-- No token is spelled by nothing. -/
theorem Spells.ne_nil {spelling : List Char} {token : Token} (h : Spells spelling token) :
    spelling ≠ [] := by
  cases h with
  | number negative position form size => simp [form.ne_nil]
  | _ => simp

end Token

end TapeMeasure
