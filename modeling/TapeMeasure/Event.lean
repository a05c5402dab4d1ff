import TapeMeasure.Json
import TapeMeasure.Problem
import TapeMeasure.Record

/-!
# Events of the log

What the calculator and the service report while they work.  An event has a name, a level and
further members, and `Event.toJson` puts them together.

* `Failure.members`: what is logged in place of an answer.
* `Event`: all events; `Outcome.events` are those of a calculation.
-/

namespace TapeMeasure

namespace Failure

/-- The name of a failure in the log. -/
def name : Failure → String
  | arithmetic _ => "evaluation_failed"
  | _ => "calculation_failed"

/-- The expression that failed, where the log names it. -/
def expression? : Failure → Option String
  | notTokens expression _ => some expression
  | notExpression expression _ => some expression
  | arithmetic _ => none
  | outOfRange expression _ => some expression

/-- The problem that a failure reports. An answer out of range has no message of its own. -/
def problem : Failure → Problem
  | notTokens _ fault => fault.problem
  | notExpression _ fault => fault.problem
  | arithmetic fault => fault.problem
  | outOfRange _ _ => .engine "" (some "RESULT_OUT_OF_RANGE")

/-- The logged message. For an answer out of range it is the text of whatever arithmetic failed
beneath, in words that are not told here, and it is left out. -/
def message? : Failure → Option String
  | outOfRange _ _ => none
  | failure => some failure.problem.message

/-- The logged members of a failure: the expression, the code, the position and the message. -/
def members (failure : Failure) : List (JsonString × Json) :=
  let report := failure.problem
  Json.presentMembers
    [("expression", failure.expression?.map fun (text : String) => .string text),
      ("error_code", some (.string report.code)), ("position", report.position?.map .integer),
      ("message", failure.message?.map fun (text : String) => .string text)]

end Failure

/-- What is reported in the log. -/
inductive Event where
  | failed (failure : Failure)
  | completed (record : Record) (ip : Option String)
  | noResult (record : Record) (ip : Option String)
  | rateLimited (ip : Option String) (path : String)
  deriving DecidableEq, Repr

namespace Event

/-- The name of an event. -/
def name : Event → String
  | failed failure => failure.name
  | completed _ _ => "calculation_completed"
  | noResult _ _ => "calculation_no_result"
  | rateLimited _ _ => "rate_limited"

/-- The level of an event. -/
def level : Event → String
  | rateLimited _ _ => "warning"
  | _ => "info"

/-- What an event says beside its name and level. -/
def members : Event → List (JsonString × Json)
  | failed failure => failure.members
  | completed record ip =>
    [("calc_type", .string record.calcType.text),
      ("calc_subtype", .ofOption (record.calcSubtype.map CalcSubtype.text)),
      ("input_method", .string record.inputMethod.text),
      ("result_formatted", .ofOption record.resultFormatted), ("ip", .ofOption ip)]
  | noResult record ip =>
    [("input_method", .string record.inputMethod.text),
      ("expression", .string record.inputExpression), ("ip", .ofOption ip)]
  | rateLimited ip path => [("ip", .ofOption ip), ("path", .string path)]

/-- An event as it is written to the log. -/
def toJson (event : Event) : Json :=
  .object
    (("event", .string event.name) :: ("log_level", .string event.level) :: event.members)

end Event

/-- The events of a calculation: one for a failure, and none for an answer. -/
def Outcome.events (outcome : Outcome) : List Event :=
  outcome.failure?.toList.map Event.failed

/-- An answer as it is sent to a client. -/
def Result.toJson (result : Result) : Json :=
  .object
    [("expression", .string result.expression), ("resultDecimal", .double result.decimal),
      ("resultFeetInches", .string result.feetInches),
      ("resultTotalInches", .string result.totalInches), ("isInchMode", .bool result.isInchMode)]

end TapeMeasure
