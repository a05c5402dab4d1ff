import TapeMeasure.Event
import TapeMeasure.Service.Request
import TapeMeasure.Text.Abbreviation

/-!
# Answering requests

A request is calculated, and the outcome is logged with the beginning of the client's address.

* `Answer`: the result, if there is one, and the events.
* `Request.answer`: the answer to a request; there is none if the calculation breaks down.
-/

namespace TapeMeasure

namespace Service

/-- How many characters of an address are logged. -/
def loggedAddressLength : Int :=
  10

/-- An address as it is logged. -/
def loggedAddress (ip : Option String) : Option String :=
  Text.abbreviate loggedAddressLength ip

/-- The result of a request and what was logged for it. -/
structure Answer where
  result : Option Result
  events : List Event
  deriving DecidableEq, Repr

/-- The body that a client receives. -/
def Answer.toJson (answer : Answer) : Json :=
  .object [("result", (answer.result.map Result.toJson).getD .null)]

/-- The answer to a request from an address. A breakdown of the calculation has none. -/
def Request.answer (request : Request) (ip : Option String) : Option Answer :=
  match calculate request.expression with
  | .answer result =>
    let record := Record.ofResult result request.inputMethod none none none
    some ⟨some result, [.completed record (loggedAddress ip)]⟩
  | .failure failure =>
    let record := Record.failed request.expression request.inputMethod none
    some ⟨none, [.failed failure, .noResult record (loggedAddress ip)]⟩
  | .breakdown => none

/-- The result of an answer is that of the expression alone. -/
theorem Request.result_answer {request : Request} {ip : Option String} {answer : Answer}
    (h : request.answer ip = some answer) :
    answer.result = (calculate request.expression).result? := by
  unfold Request.answer at h
  split at h <;> rename_i outcome <;> cases h <;> simp [outcome, Outcome.result?]

end Service

end TapeMeasure
