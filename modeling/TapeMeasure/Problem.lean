import TapeMeasure.Double.Text
import TapeMeasure.Expression.Parse
import TapeMeasure.Token

/-!
# Problems and their reports

Every fault that leaves the calculator is reported as a problem with a message and a code.

* `Problem.message`, `Problem.code`: what is reported.
* `Token.Fault.problem`, `Expression.Fault.problem`, `ArithmeticFault.problem`: the problems that
  the faults of an expression are reported as.
-/

namespace TapeMeasure

/-- A fault as it is reported. Where a position is missing, it is reported as `-1`. -/
inductive Problem where
  /-- A text cannot be split into tokens. -/
  | tokens (message : String) (position : Int)
  /-- Tokens do not make an expression. -/
  | expression (message : String) (position : Int)
  /-- A divisor is zero. -/
  | divisionByZero
  /-- Another fault of the calculator, with a code of its own or without. -/
  | engine (message : String) (code : Option String)
  /-- Another fault of the service, with a code of its own or without. -/
  | service (message : String) (code : Option String)
  /-- A client has made too many requests. -/
  | rateLimit (limit : Int) (retryAfter : Double)
  deriving DecidableEq, Repr

namespace Problem

/-- The code itself, or the one that stands for a missing or empty code. -/
def codeOr (default : String) : Option String → String
  | none => default
  | some code => if code.isEmpty then default else code

/-- The reported message. -/
def message : Problem → String
  | tokens message position => message ++ " at position " ++ Text.integerText position
  | expression message _ => message
  | divisionByZero => ArithmeticFault.divisionByZero.message
  | engine message _ => message
  | service message _ => message
  | rateLimit limit retryAfter =>
    "Too many requests (" ++ Text.integerText limit ++ " per window). Retry after " ++
      retryAfter.onePlace ++ "s"

/-- The reported code. -/
def code : Problem → String
  | tokens _ _ => "TOKENIZE_ERROR"
  | expression _ _ => "PARSE_ERROR"
  | divisionByZero => ArithmeticFault.divisionByZero.code
  | engine _ code => codeOr "EngineError" code
  | service _ code => codeOr "MeasureCalculatorError" code
  | rateLimit _ _ => "RATE_LIMIT_EXCEEDED"

/-- The reported position, where a problem has one. -/
def position? : Problem → Option Int
  | tokens _ position => some position
  | expression _ position => some position
  | _ => none

end Problem

/-- The report of a text without tokens. -/
def Token.Fault.problem (fault : Token.Fault) : Problem :=
  .tokens fault.cause.message fault.position

/-- The report of tokens without an expression. -/
def Expression.Fault.problem (fault : Expression.Fault) : Problem :=
  .expression fault.cause.message (fault.position.elim (-1) Int.ofNat)

/-- The report of failed arithmetic. -/
def ArithmeticFault.problem : ArithmeticFault → Problem
  | divisionByZero => .divisionByZero

end TapeMeasure
