import TapeMeasure.Quantity.Arithmetic
import TapeMeasure.Token

/-!
# Expressions

An expression is a first operand and pairs of an operator and an operand.  There is no operator
precedence: the operators apply from left to right to a running total, as on a keypad.

* `Operand.total`: the exact signed value of an operand in inches, before a percent sign.
* `Operand.quantity`: the quantity that an operand stands for.
* `Operator.apply`: what an operator does to the running total.
* `Expression.fold`: the final quantity, which exists unless a divisor is zero.
* `Expression.foldChecked`: the same fold with every check that a quantity makes of its parts.
-/

namespace TapeMeasure

/-- One measurement or number of an expression. The sign applies to the whole of it. -/
structure Operand where
  negative : Bool
  feet : Option Rat
  inches : Option Rat
  fraction : Option Rat
  percent : Bool
  deriving DecidableEq, Repr

namespace Operand

/-- The operand that is written with the given parts. -/
def ofParts (negative : Bool) (feet inches : Option Literal) (fraction : Option Ratio)
    (percent : Bool) : Operand where
  negative := negative
  feet := feet.map fun literal => literal.value.toRat
  inches := inches.map fun literal => literal.value.toRat
  fraction := fraction.map Ratio.toRat
  percent := percent

/-- The value of the parts together, in inches and without the sign. -/
def magnitude (o : Operand) : Rat :=
  o.feet.getD 0 * 12 + o.inches.getD 0 + o.fraction.getD 0

/-- The exact signed value in inches, before a percent sign. -/
def total (o : Operand) : Rat :=
  if o.negative then -o.magnitude else o.magnitude

/-- The quantity that an operand stands for. A percentage is taken of the nearest quantity. -/
def quantity (o : Operand) : Quantity :=
  let nearest := Quantity.ofRat o.total
  if o.percent then nearest.percent else nearest

end Operand

/-- What an operator does to the running total. -/
def Operator.apply : Operator → Quantity → Quantity → Except ArithmeticFault Quantity
  | add, a, b => .ok (a.add b)
  | subtract, a, b => .ok (a.subtract b)
  | multiply, a, b => .ok (a.multiply b)
  | divide, a, b => a.divide b

/-- A first operand, and operators with the operands behind them. -/
structure Expression where
  first : Operand
  rest : List (Operator × Operand)
  deriving DecidableEq, Repr

namespace Expression

/-- The operands in order. -/
def operands (e : Expression) : List Operand :=
  e.first :: e.rest.map Prod.snd

/-- The running total after some more operators. -/
def foldFrom (total : Quantity) : List (Operator × Operand) → Except ArithmeticFault Quantity
  | [] => .ok total
  | (op, operand) :: rest =>
    (op.apply total operand.quantity).bind fun next => foldFrom next rest

/-- The final quantity of an expression. -/
def fold (e : Expression) : Except ArithmeticFault Quantity :=
  foldFrom e.first.quantity e.rest

@[simp] theorem foldFrom_nil (total : Quantity) : foldFrom total [] = .ok total := rfl

/-- A run of operators can be cut anywhere. -/
theorem foldFrom_append (total : Quantity) (xs ys : List (Operator × Operand)) :
    foldFrom total (xs ++ ys) = (foldFrom total xs).bind fun next => foldFrom next ys := by
  induction xs generalizing total with
  | nil => rfl
  | cons x xs ih =>
    obtain ⟨op, operand⟩ := x
    simp only [List.cons_append, foldFrom]
    cases op.apply total operand.quantity with
    | error fault => rfl
    | ok next => exact ih next

end Expression

/-! ## Checked folds -/

/-- The rational number that an operator brings back to a quantity. -/
def Operator.exact : Operator → Quantity → Quantity → Except ArithmeticFault Rat
  | add, a, b =>
    let d := a.commonDenominator b
    .ok (((a.numeratorOver d + b.numeratorOver d : Int) : Rat) / (d : Rat))
  | subtract, a, b =>
    let d := a.commonDenominator b
    .ok (((a.numeratorOver d - b.numeratorOver d : Int) : Rat) / (d : Rat))
  | multiply, a, b => .ok (a.toRat * b.toRat)
  | divide, a, b => if b.isZero then .error .divisionByZero else .ok (a.toRat / b.toRat)

/-- What can go wrong in a fold that checks every quantity. -/
inductive CheckedFault where
  | arithmetic (fault : ArithmeticFault)
  | construction (fault : Quantity.Fault)
  deriving DecidableEq, Repr

/-- The quantity that an operand stands for, checked. -/
def Operand.quantityChecked (o : Operand) : Except CheckedFault Quantity :=
  ((Quantity.construct o.total).bind fun nearest =>
    if o.percent then Quantity.construct (nearest.toRat / 100) else .ok nearest).mapError
      .construction

/-- What an operator does to the running total, checked. -/
def Operator.applyChecked (op : Operator) (a b : Quantity) : Except CheckedFault Quantity :=
  ((op.exact a b).mapError .arithmetic).bind fun v =>
    (Quantity.construct v).mapError .construction

/-- The running total after some more operators, checked. -/
def Expression.foldFromChecked (total : Quantity) :
    List (Operator × Operand) → Except CheckedFault Quantity
  | [] => .ok total
  | (op, operand) :: rest =>
    operand.quantityChecked.bind fun q =>
      (op.applyChecked total q).bind fun next => foldFromChecked next rest

/-- The final quantity of an expression, checked. -/
def Expression.foldChecked (e : Expression) : Except CheckedFault Quantity :=
  e.first.quantityChecked.bind fun first => foldFromChecked first e.rest

end TapeMeasure
