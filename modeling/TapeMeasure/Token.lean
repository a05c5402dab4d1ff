import TapeMeasure.Decimal
import TapeMeasure.Text.Quoted

/-!
# Tokens of an expression

The smallest parts that an expression is written with: numbers, fractions, the marks for feet and
inches, operators and the percent sign.  A token knows the position of its first character.

* `Operator`, `Literal`, `Ratio`: what the tokens carry.  A literal keeps the digits as they were
  written, since `5.` and `5` are told apart later.
* `Token`: the tokens; `Token.position` and `Token.isMeasure` are common to all of them.
* `Token.Fault`: why a text has no tokens, and where.
-/

namespace TapeMeasure

open Text

/-- The four operators. -/
inductive Operator where
  | add
  | subtract
  | multiply
  | divide
  deriving DecidableEq, Repr

/-- The character of an operator. -/
def Operator.symbol : Operator → Char
  | add => '+'
  | subtract => '-'
  | multiply => '*'
  | divide => '/'

/-- The operator that a character stands for. -/
def Operator.ofSymbol? : Char → Option Operator
  | '+' => some add
  | '-' => some subtract
  | '*' => some multiply
  | '/' => some divide
  | _ => none

@[simp] theorem Operator.ofSymbol?_symbol (op : Operator) : ofSymbol? op.symbol = some op := by
  cases op <;> rfl

theorem Operator.symbol_of_ofSymbol? {c : Char} {op : Operator} (h : ofSymbol? c = some op) :
    op.symbol = c := by
  unfold ofSymbol? at h
  split at h <;> cases h <;> rfl

/-- A number as it is written, and the decimal that the text denotes. -/
structure Literal where
  text : String
  value : Decimal
  value_eq : Decimal.parse? text.toList = some value
  deriving DecidableEq, Repr

/-- The literal with a text, if the text writes a decimal. -/
def Literal.ofText? (text : String) : Option Literal :=
  match h : Decimal.parse? text.toList with
  | none => none
  | some value => some ⟨text, value, h⟩

/-- Whether a number is written without a point. -/
def Literal.isInteger (l : Literal) : Bool :=
  !l.text.toList.contains '.'

/-- A fraction as it is written, reduced or not. -/
structure Ratio where
  numerator : Int
  denominator : Nat
  denominator_pos : 0 < denominator
  deriving DecidableEq, Repr

/-- The value of a fraction. -/
def Ratio.toRat (r : Ratio) : Rat :=
  (r.numerator : Rat) / (r.denominator : Rat)

/-- A part of an expression, with the position of its first character. -/
inductive Token where
  | number (literal : Literal) (negative : Bool) (position : Nat)
  | fraction (ratio : Ratio) (negative : Bool) (position : Nat)
  | feetMark (position : Nat)
  | inchMark (position : Nat)
  | operator (op : Operator) (position : Nat)
  | percent (position : Nat)
  deriving DecidableEq, Repr

namespace Token

/-- The position of the first character. -/
def position : Token → Nat
  | number _ _ p => p
  | fraction _ _ p => p
  | feetMark p => p
  | inchMark p => p
  | operator _ p => p
  | percent p => p

/-- Whether a token is an operator. -/
def isOperator : Token → Bool
  | operator _ _ => true
  | _ => false

/-- Whether a token can only occur in a measurement. -/
def isMeasure : Token → Bool
  | feetMark _ => true
  | inchMark _ => true
  | fraction _ _ _ => true
  | _ => false

/-- Whether a token is a percent sign. -/
def isPercent : Token → Bool
  | percent _ => true
  | _ => false

/-- Whether a token is a number with a point. -/
def isPointed : Token → Bool
  | number literal _ _ => !literal.isInteger
  | _ => false

/-- The number of digits up to which a literal is read. -/
def maxLiteralDigits : Nat :=
  64

/-- What is wrong with a text that has no tokens. -/
inductive Cause where
  | numberTooLong
  | numeratorNotInteger
  | denominatorMissing
  | denominatorZero
  | feetAfterFraction
  | feetWithoutNumber
  | unrecognized (c : Char)
  deriving DecidableEq, Repr

/-- What is said about the cause. -/
def Cause.message : Cause → String
  | numberTooLong => "Number exceeds 64 digits"
  | numeratorNotInteger => "Fraction numerator must be an integer"
  | denominatorMissing => "Fraction is missing its denominator"
  | denominatorZero => "Fraction denominator cannot be zero"
  | feetAfterFraction => "Feet mark cannot follow a fraction"
  | feetWithoutNumber => "Feet mark must directly follow a number"
  | unrecognized c => "Unrecognized character " ++ String.ofList (quote [c])

/-- A cause and the position where it was found. -/
structure Fault where
  cause : Cause
  position : Nat
  deriving DecidableEq, Repr

end Token

end TapeMeasure
