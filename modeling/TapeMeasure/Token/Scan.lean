import TapeMeasure.Text.Blank
import TapeMeasure.Token
import TapeMeasure.Token.Marks

/-!
# Scanning an expression

A text is trimmed, gets plain marks, and is read from left to right into tokens.  Positions count
the characters of the text that is read.

* `Numeral`: the digits of a number at the front of a text; `Numeral.literal` is what they denote.
* `Lexeme`: the tokens that start at a character, and how many characters they take after it.
  `lexeme` reads one: a blank gives no token, a number with a feet mark gives two.
* `scan`: all tokens of a text; `Token.ofText` is the scan of a text as it was entered.

A minus sign belongs to the number behind it if no blank stands between them and no operand stands
before it; elsewhere it is an operator.
-/

namespace TapeMeasure

open Text

namespace Token

/-! ## Numbers -/

/-- Whether a number starts at the front of a text: a digit, or a point before a digit. -/
def startsNumber : List Char → Bool
  | '.' :: c :: _ => c.isDigit
  | c :: _ => c.isDigit
  | [] => false

/-- The digits of a number, with the digits behind the point if there is a point. -/
structure Numeral where
  whole : List Char
  places : Option (List Char)
  deriving DecidableEq, Repr

namespace Numeral

/-- The digits behind the point, if any. -/
def placeDigits (n : Numeral) : List Char :=
  n.places.getD []

/-- The numeral as it is written. -/
def text (n : Numeral) : List Char :=
  match n.places with
  | none => n.whole
  | some places => n.whole ++ '.' :: places

/-- How many digits there are, the point not counted. -/
def digitCount (n : Numeral) : Nat :=
  n.whole.length + n.placeDigits.length

/-- A numeral has digits and nothing else. -/
structure Proper (n : Numeral) : Prop where
  whole_digits : ∀ c ∈ n.whole, c.isDigit = true
  place_digits : ∀ c ∈ n.placeDigits, c.isDigit = true
  nonempty : n.whole ++ n.placeDigits ≠ []

/-- The decimal that the numeral writes. -/
def value (n : Numeral) : Decimal :=
  ⟨false, natOfDigits (n.whole ++ n.placeDigits), -(n.placeDigits.length : Int)⟩

/-- A proper numeral reads as its value. -/
theorem parse?_text {n : Numeral} (h : n.Proper) : Decimal.parse? n.text = some n.value := by
  obtain ⟨whole, _ | places⟩ := n
  · simpa [text, value, placeDigits] using
      Decimal.parse?_digits h.whole_digits (by simpa [placeDigits] using h.nonempty)
  · exact Decimal.parse?_point h.whole_digits h.place_digits h.nonempty

/-- A proper numeral as a literal. -/
def literal (n : Numeral) (h : n.Proper) : Literal where
  text := String.ofList n.text
  value := n.value
  value_eq := by rw [String.toList_ofList]; exact parse?_text h

/-- The longest numeral at the front of a text. -/
def ofFront (cs : List Char) : Numeral where
  whole := cs.takeWhile Char.isDigit
  places :=
    match cs.dropWhile Char.isDigit with
    | '.' :: rest => some (rest.takeWhile Char.isDigit)
    | _ => none

/-- Where a number starts, a proper numeral stands. -/
theorem proper_ofFront {cs : List Char} (h : startsNumber cs = true) : (ofFront cs).Proper where
  whole_digits c hc := List.all_eq_true.1 List.all_takeWhile c hc
  place_digits c hc := by
    simp only [placeDigits, ofFront] at hc
    split at hc
    · exact List.all_eq_true.1 List.all_takeWhile c hc
    · simp at hc
  nonempty := by
    unfold startsNumber at h
    split at h
    · simp [ofFront, placeDigits, h]
    · simp [ofFront, placeDigits, h]
    · contradiction

end Numeral

/-! ## Lexemes -/

/-- The tokens that start at a character, and the number of characters they take after it. -/
structure Lexeme where
  tokens : List Token
  more : Nat
  deriving DecidableEq, Repr

/-- The fraction with a numerator, at the text behind its slash. The characters it takes are those
of its denominator. -/
def fractionLexeme (negative : Bool) (start slash numerator : Nat) (cs : List Char) :
    Except Fault Lexeme :=
  let digits := cs.takeWhile Char.isDigit
  if digits = [] then .error ⟨.denominatorMissing, slash⟩
  else if maxLiteralDigits < digits.length then .error ⟨.numberTooLong, slash + 1⟩
  else if zero : natOfDigits digits = 0 then .error ⟨.denominatorZero, slash + 1⟩
  else if (cs.dropWhile Char.isDigit).head? = some '\'' then
    .error ⟨.feetAfterFraction, slash + 1 + digits.length⟩
  else
    let ratio : Ratio := ⟨numerator, natOfDigits digits, Nat.pos_of_ne_zero zero⟩
    .ok ⟨[.fraction ratio negative start], digits.length⟩

/-- The number or fraction at the front of a text, with the feet mark of a number. The sign stands
at `start` and the first digit at `position`. -/
def numberLexeme (negative : Bool) (start position : Nat) (cs : List Char)
    (h : startsNumber cs = true) : Except Fault Lexeme :=
  let numeral := Numeral.ofFront cs
  let width := numeral.text.length
  if maxLiteralDigits < numeral.digitCount then .error ⟨.numberTooLong, position⟩
  else
    let number := Token.number (numeral.literal (Numeral.proper_ofFront h)) negative start
    match cs.drop width with
    | '/' :: rest =>
      if numeral.places.isSome then .error ⟨.numeratorNotInteger, position⟩
      else
        (fractionLexeme negative start (position + width) (natOfDigits numeral.whole) rest).map
          fun denominator => { denominator with more := width + denominator.more }
    | '\'' :: _ => .ok ⟨[number, .feetMark (position + width)], width⟩
    | _ => .ok ⟨[number], width - 1⟩

/-- The token of a single character that neither is blank nor starts a number. -/
def markLexeme (position : Nat) (c : Char) : Except Fault Lexeme :=
  match Operator.ofSymbol? c with
  | some op => .ok ⟨[.operator op position], 0⟩
  | none =>
    if c = '%' then .ok ⟨[.percent position], 0⟩
    else if c = '"' then .ok ⟨[.inchMark position], 0⟩
    else if c = '\'' then .error ⟨.feetWithoutNumber, position⟩
    else .error ⟨.unrecognized c, position⟩

/-- The tokens that start at the character `c`, with `cs` behind it. -/
def lexeme (position : Nat) (afterOperand : Bool) (c : Char) (cs : List Char) :
    Except Fault Lexeme :=
  if isBlank c then .ok ⟨[], 0⟩
  else if h : startsNumber (c :: cs) = true then numberLexeme false position position (c :: cs) h
  else if h : c = '-' ∧ afterOperand = false ∧ startsNumber cs = true then
    (numberLexeme true position (position + 1) cs h.2.2).map
      fun number => { number with more := number.more + 1 }
  else markLexeme position c

/-! ## Texts -/

section

attribute [local irreducible] lexeme

/-- Whether an operand has been read behind the given tokens, which follow what has been read
before them. -/
def endsOperand (afterOperand : Bool) (tokens : List Token) : Bool :=
  match tokens.getLast? with
  | none => afterOperand
  | some token => !token.isOperator

/-- The tokens of a text that stands at a position. -/
def scan (position : Nat) (afterOperand : Bool) : List Char → Except Fault (List Token)
  | [] => .ok []
  | c :: cs =>
    (lexeme position afterOperand c cs).bind fun first =>
      (scan (position + 1 + first.more) (endsOperand afterOperand first.tokens)
        (cs.drop first.more)).map (first.tokens ++ ·)
termination_by cs => cs.length
decreasing_by simp only [List.length_drop, List.length_cons]; omega

@[simp] theorem scan_nil (position : Nat) (afterOperand : Bool) :
    scan position afterOperand [] = .ok [] := by
  simp only [scan]

theorem scan_cons (position : Nat) (afterOperand : Bool) (c : Char) (cs : List Char) :
    scan position afterOperand (c :: cs) =
      (lexeme position afterOperand c cs).bind fun first =>
        (scan (position + 1 + first.more) (endsOperand afterOperand first.tokens)
          (cs.drop first.more)).map (first.tokens ++ ·) := by
  simp only [scan]

end

/-- The tokens of an expression as it was entered. -/
def ofText (text : String) : Except Fault (List Token) :=
  scan 0 false (plainMarks (trim text.toList))

end Token

end TapeMeasure
