import TapeMeasure.Decimal.Text
import TapeMeasure.Expression

/-!
# Reading an expression from its tokens

An operand is a number of feet with further parts, a number of inches with further parts, or a
fraction; each may end with an inch mark and a percent sign.  Operands are separated by operators.

* `Operand.read`: the operand at the front of a list of tokens, and the tokens behind it.
  `Operand.length_read_lt` says that it takes at least one token.
* `Expression.ofTokens`: the expression that the tokens write.
* `Expression.Fault`: why they write none, and where.
-/

namespace TapeMeasure

/-- What is wrong with tokens that write no expression. -/
inductive Expression.Cause where
  | empty
  | endsWithOperator
  | unexpectedOperator (op : Operator)
  | expectedNumber
  | feetTwice
  | mixedNumberNotWhole
  | inchMarkWithoutInches
  | missingOperator
  deriving DecidableEq, Repr

/-- What is said about the cause. -/
def Expression.Cause.message : Expression.Cause → String
  | empty => "Empty expression"
  | endsWithOperator => "Expression ends with an operator"
  | unexpectedOperator op => "Unexpected operator " ++ String.ofList (Text.quote [op.symbol])
  | expectedNumber => "Expected a number"
  | feetTwice => "Feet given twice in one measurement"
  | mixedNumberNotWhole => "Mixed number needs a whole-number part"
  | inchMarkWithoutInches => "Inch mark must follow an inch value"
  | missingOperator => "Missing operator between measurements"

/-- A cause and the position where it was found; where tokens are missing at the end, there is
none. -/
structure Expression.Fault where
  cause : Expression.Cause
  position : Option Nat
  deriving DecidableEq, Repr

namespace Operand

open Expression (Fault)

/-- The inches that continue a number of feet, with the tokens behind them. -/
def readContinuation : List Token → Except Fault (Option Literal × List Token)
  | .number _ _ position :: .feetMark _ :: _ => .error ⟨.feetTwice, some position⟩
  | .number literal _ _ :: tokens => .ok (some literal, tokens)
  | tokens => .ok (none, tokens)

/-- Whether a number shows a point when it is written in the short notation. -/
def showsPoint (literal : Literal) : Bool :=
  literal.value.short.contains '.'

/-- The fraction behind the inches, with the tokens behind it. -/
def readFraction (inches : Option Literal) :
    List Token → Except Fault (Option Ratio × List Token)
  | .fraction ratio _ position :: tokens =>
    if inches.any showsPoint then .error ⟨.mixedNumberNotWhole, some position⟩
    else .ok (some ratio, tokens)
  | tokens => .ok (none, tokens)

/-- The tokens behind an inch mark, which may only follow inches. -/
def readInchMark (hasInches : Bool) : List Token → Except Fault (List Token)
  | .inchMark position :: tokens =>
    if hasInches then .ok tokens else .error ⟨.inchMarkWithoutInches, some position⟩
  | tokens => .ok tokens

/-- Whether a percent sign stands in front, with the tokens behind it. -/
def readPercent : List Token → Bool × List Token
  | .percent _ :: tokens => (true, tokens)
  | tokens => (false, tokens)

/-- The parts of an operand behind its feet and whole inches. -/
def readRest (negative : Bool) (feet inches : Option Literal) (tokens : List Token) :
    Except Fault (Operand × List Token) := do
  let (fraction, tokens) ← readFraction inches tokens
  let tokens ← readInchMark (inches.isSome || fraction.isSome) tokens
  let (percent, tokens) := readPercent tokens
  return (ofParts negative feet inches fraction percent, tokens)

/-- The operand in front, with the tokens behind it. -/
def read : List Token → Except Fault (Operand × List Token)
  | [] => .error ⟨.endsWithOperator, none⟩
  | .operator op position :: _ => .error ⟨.unexpectedOperator op, some position⟩
  | .number feet negative _ :: .feetMark _ :: tokens => do
    let (inches, tokens) ← readContinuation tokens
    readRest negative (some feet) inches tokens
  | .number inches negative _ :: tokens => readRest negative none (some inches) tokens
  | .fraction ratio negative position :: tokens =>
    readRest negative none none (.fraction ratio negative position :: tokens)
  | token :: _ => .error ⟨.expectedNumber, some token.position⟩

/-! ## The tokens behind an operand -/

theorem length_readContinuation_le {tokens rest : List Token} {inches : Option Literal}
    (h : readContinuation tokens = .ok (inches, rest)) : rest.length ≤ tokens.length := by
  unfold readContinuation at h
  split at h <;> cases h <;> simp

theorem length_readFraction_le {inches : Option Literal} {tokens rest : List Token}
    {fraction : Option Ratio} (h : readFraction inches tokens = .ok (fraction, rest)) :
    rest.length ≤ tokens.length := by
  unfold readFraction at h
  split at h
  · split at h <;> cases h
    simp
  · cases h
    exact Nat.le_refl _

theorem length_readInchMark_le {hasInches : Bool} {tokens rest : List Token}
    (h : readInchMark hasInches tokens = .ok rest) : rest.length ≤ tokens.length := by
  unfold readInchMark at h
  split at h
  · split at h <;> cases h
    simp
  · cases h
    exact Nat.le_refl _

theorem length_readPercent_le (tokens : List Token) :
    (readPercent tokens).2.length ≤ tokens.length := by
  unfold readPercent
  split <;> simp

/-- The rest of an operand takes no tokens back. -/
theorem length_readRest_le {negative : Bool} {feet inches : Option Literal}
    {tokens rest : List Token} {operand : Operand}
    (h : readRest negative feet inches tokens = .ok (operand, rest)) :
    rest.length ≤ tokens.length := by
  unfold readRest at h
  cases hf : readFraction inches tokens with
  | error fault => rw [hf] at h; cases h
  | ok result =>
    obtain ⟨fraction, behind⟩ := result
    rw [hf] at h
    simp only [bind, Except.bind] at h
    cases hm : readInchMark (inches.isSome || fraction.isSome) behind with
    | error fault => rw [hm] at h; cases h
    | ok afterMark =>
      rw [hm] at h
      cases h
      have := length_readFraction_le hf
      have := length_readInchMark_le hm
      have := length_readPercent_le afterMark
      omega

/-- A fraction in front is always taken. -/
theorem length_readRest_lt_of_fraction {negative sign : Bool} {feet : Option Literal}
    {ratio : Ratio} {position : Nat} {tokens rest : List Token} {operand : Operand}
    (h : readRest negative feet none (.fraction ratio sign position :: tokens) =
      .ok (operand, rest)) : rest.length ≤ tokens.length := by
  unfold readRest at h
  simp only [readFraction, Option.any_none, Bool.false_eq_true, if_false, bind, Except.bind] at h
  cases hm : readInchMark (Option.isSome (none : Option Literal) ||
      Option.isSome (some ratio)) tokens with
  | error fault => rw [hm] at h; cases h
  | ok afterMark =>
    rw [hm] at h
    cases h
    have := length_readInchMark_le hm
    have := length_readPercent_le afterMark
    omega

/-- An operand takes at least one token. -/
theorem length_read_lt {tokens rest : List Token} {operand : Operand}
    (h : read tokens = .ok (operand, rest)) : rest.length < tokens.length := by
  unfold read at h
  split at h
  · cases h
  · cases h
  · rename_i feet negative _ _ behind
    cases hc : readContinuation behind with
    | error fault => rw [hc] at h; cases h
    | ok result =>
      obtain ⟨inches, afterInches⟩ := result
      rw [hc] at h
      have := length_readContinuation_le hc
      have := length_readRest_le h
      simp only [List.length_cons]
      omega
  · have := length_readRest_le h
    simp only [List.length_cons]
    omega
  · have := length_readRest_lt_of_fraction h
    simp only [List.length_cons]
    omega
  · cases h

end Operand

namespace Expression

/-- Operators with the operands behind them, up to the end of the tokens. -/
def readPairs (tokens : List Token) : Except Fault (List (Operator × Operand)) :=
  match tokens with
  | [] => .ok []
  | .operator op _ :: tokens =>
    match _taken : Operand.read tokens with
    | .error fault => .error fault
    | .ok (operand, rest) => (readPairs rest).map ((op, operand) :: ·)
  | token :: _ => .error ⟨.missingOperator, some token.position⟩
termination_by tokens.length
decreasing_by
  have := Operand.length_read_lt _taken
  simp only [List.length_cons]
  omega

@[simp] theorem readPairs_nil : readPairs [] = .ok [] := by
  rw [readPairs]

/-- Nothing but an operator may follow an operand. -/
theorem readPairs_of_not_isOperator {token : Token} (h : token.isOperator = false)
    (tokens : List Token) :
    readPairs (token :: tokens) = .error ⟨.missingOperator, some token.position⟩ := by
  cases token with
  | operator op position => cases h
  | _ => simp only [readPairs]

/-- Behind an operator stands an operand, and then further pairs. -/
theorem readPairs_operator (op : Operator) (position : Nat) (tokens : List Token) :
    readPairs (.operator op position :: tokens) =
      (Operand.read tokens).bind fun next =>
        (readPairs next.2).map ((op, next.1) :: ·) := by
  rw [readPairs]
  split <;> rename_i taken <;> rw [taken] <;> rfl

/-- The expression that the tokens write. -/
def ofTokens : List Token → Except Fault Expression
  | [] => .error ⟨.empty, none⟩
  | token :: tokens => do
    let (first, behind) ← Operand.read (token :: tokens)
    let rest ← readPairs behind
    return ⟨first, rest⟩

end Expression

end TapeMeasure
