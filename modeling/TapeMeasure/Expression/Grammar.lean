import TapeMeasure.Decimal.Text
import TapeMeasure.Expression

/-!
# The grammar of expressions

Which tokens write which expression, said without reading them.

An operand is a number with a feet mark, a number, or nothing before a fraction; then come whole
inches if feet were given, a fraction, an inch mark behind inches, and a percent sign, each of them
or not.  The whole inches before a fraction show no point.  An expression is an operand and then
operators with operands.

* `Operand.Writes`: the tokens of an operand.
* `Expression.Cut`: the tokens of an expression, cut into those of its operands.
* `Expression.Cut.Writes`: the expression that a cut writes.
-/

namespace TapeMeasure

namespace Operand

/-- The tokens of whole inches that may be missing. -/
inductive WritesInches : List Token → Option Literal → Prop
  | missing : WritesInches [] none
  | given (literal : Literal) (negative : Bool) (position : Nat) :
    WritesInches [.number literal negative position] (some literal)

/-- The tokens of a fraction that may be missing. -/
inductive WritesFraction : List Token → Option Ratio → Prop
  | missing : WritesFraction [] none
  | given (ratio : Ratio) (negative : Bool) (position : Nat) :
    WritesFraction [.fraction ratio negative position] (some ratio)

/-- The tokens of an inch mark that may be missing. -/
inductive WritesInchMark : List Token → Bool → Prop
  | missing : WritesInchMark [] false
  | given (position : Nat) : WritesInchMark [.inchMark position] true

/-- The tokens of a percent sign that may be missing. -/
inductive WritesPercent : List Token → Bool → Prop
  | missing : WritesPercent [] false
  | given (position : Nat) : WritesPercent [.percent position] true

/-- The whole part of a mixed number shows no point. -/
def WholePart (inches : Option Literal) (fraction : Option Ratio) : Prop :=
  fraction.isSome = true → ∀ literal ∈ inches, '.' ∉ literal.value.short

/-- The tokens behind the feet of an operand, or behind nothing: inches, a fraction, and marks. -/
inductive WritesParts : List Token → Option Literal → Option Ratio → Bool → Prop
  | mk {ti tf tm tp : List Token} {inches : Option Literal} {fraction : Option Ratio}
      {marked percent : Bool} (writesInches : WritesInches ti inches)
      (writesFraction : WritesFraction tf fraction) (writesMark : WritesInchMark tm marked)
      (writesPercent : WritesPercent tp percent) (whole : WholePart inches fraction)
      (hasInches : marked = true → inches.isSome = true ∨ fraction.isSome = true) :
    WritesParts (ti ++ (tf ++ (tm ++ tp))) inches fraction percent

/-- The tokens that write an operand. Its sign is that of its first token. -/
inductive Writes : List Token → Operand → Prop
  | feet {tokens : List Token} {inches : Option Literal} {fraction : Option Ratio} {percent : Bool}
      (literal : Literal) (negative : Bool) (position mark : Nat)
      (parts : WritesParts tokens inches fraction percent) :
    Writes (.number literal negative position :: .feetMark mark :: tokens)
      (ofParts negative (some literal) inches fraction percent)
  | inches {tokens : List Token} {fraction : Option Ratio} {percent : Bool} (literal : Literal)
      (negative : Bool) (position : Nat)
      (parts : WritesParts (.number literal negative position :: tokens) (some literal) fraction
        percent) :
    Writes (.number literal negative position :: tokens)
      (ofParts negative none (some literal) fraction percent)
  | fraction {tokens : List Token} {percent : Bool} (ratio : Ratio) (negative : Bool)
      (position : Nat)
      (parts : WritesParts (.fraction ratio negative position :: tokens) none (some ratio)
        percent) :
    Writes (.fraction ratio negative position :: tokens)
      (ofParts negative none none (some ratio) percent)

/-- An operand is written with one token at least. -/
theorem Writes.ne_nil {tokens : List Token} {operand : Operand} (h : Writes tokens operand) :
    tokens ≠ [] := by
  cases h <;> simp

end Operand

namespace Expression

/-- An operator at its position, with the tokens of the operand behind it. -/
structure Piece where
  op : Operator
  position : Nat
  operand : List Token
  deriving DecidableEq, Repr

/-- The tokens of a piece. -/
def Piece.tokens (p : Piece) : List Token :=
  .operator p.op p.position :: p.operand

/-- The tokens of an expression, cut before each operator. -/
structure Cut where
  first : List Token
  pieces : List Piece
  deriving DecidableEq, Repr

/-- The tokens that are cut. -/
def Cut.tokens (c : Cut) : List Token :=
  c.first ++ c.pieces.flatMap Piece.tokens

/-- Pieces that write operators with operands, each of them one. -/
inductive WritesPairs : List Piece → List (Operator × Operand) → Prop
  | nil : WritesPairs [] []
  | cons {pieces : List Piece} {operand : Operand} {rest : List (Operator × Operand)}
      (piece : Piece) (writes : Operand.Writes piece.operand operand)
      (pairs : WritesPairs pieces rest) :
    WritesPairs (piece :: pieces) ((piece.op, operand) :: rest)

/-- A cut that writes an expression, operand by operand. -/
structure Cut.Writes (c : Cut) (e : Expression) : Prop where
  first : Operand.Writes c.first e.first
  pairs : WritesPairs c.pieces e.rest

end Expression

end TapeMeasure
