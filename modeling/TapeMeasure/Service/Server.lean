import TapeMeasure.Service.Answer
import TapeMeasure.Service.Framework
import TapeMeasure.Service.Settings

/-!
# The server

The service is what it hands to its framework: the endpoint for health, the endpoint for
calculation with the limiter as its dependency, and the handler for problems.

* `responseTo`: how a problem is answered.
* `rateLimit`: the check that a message for calculation has to pass.
* `application`: the functions of the service.
* `Server.handle`: the reply to a message, with the server after it; `Server.handleAll` does this
  for messages in order.
-/

namespace TapeMeasure

namespace Service

open Text

/-! ## Problems -/

/-- The response that reports a problem. -/
def report (status : Nat) (headers : List (String × String)) (problem : Problem) : Response :=
  ⟨status, headers,
    .json (.object [("error", .string problem.code), ("message", .string problem.message)])⟩

/-- The response to a problem. A client that made too many requests is told how many whole seconds
to wait, which is more than the time that remains. -/
def responseTo : Problem → Except Double.TruncationFault Response
  | .rateLimit limit retryAfter =>
    retryAfter.truncate.map fun seconds =>
      report 429 [("retry-after", integerText (seconds + 1))] (.rateLimit limit retryAfter)
  | problem => .ok (report 500 [] problem)

/-! ## Functions of the service -/

/-- What the service remembers: the requests that count, and what it has logged. -/
structure Memory where
  entries : Limiter.Entries
  log : List Event
  deriving DecidableEq, Repr

/-- The key under which the requests of an address are counted. -/
def limiterKey (address : String) : String :=
  "ip:" ++ address

/-- The headers that tell a client about its limit. -/
def limitHeaders (decision : Limiter.Decision) : List (String × String) :=
  [("x-ratelimit-limit", integerText decision.limit),
    ("x-ratelimit-remaining", integerText decision.remaining),
    ("x-ratelimit-reset", integerText decision.resetAt)]

/-- The address that a message is counted under. -/
def addressOf (settings : Settings) (message : Message) : String :=
  clientAddress settings.trustForwardedFor message.headers message.peer

/-- The check that a message has to pass. It returns the headers about the limit, and raises a
problem if there were too many requests. -/
def rateLimit (settings : Settings) (message : Message) (memory : Memory) :
    Except Raised (List (String × String)) × Memory :=
  let address := addressOf settings message
  let (answer, entries) :=
    Limiter.check settings.limits memory.entries message.now (limiterKey address)
  match answer with
  | .error _ => (.error .unexpected, { memory with entries })
  | .ok decision =>
    if decision.allowed then (.ok (limitHeaders decision), { memory with entries })
    else
      let event := Event.rateLimited (loggedAddress (some address)) Endpoint.calculation.path
      (.error (.problem (.rateLimit decision.limit decision.retryAfter)),
        ⟨entries, memory.log ++ [event]⟩)

/-- The calculation of a request, whose outcome is logged. -/
def runCalculation (settings : Settings) (message : Message) (request : Request)
    (memory : Memory) : Except Raised Json × Memory :=
  match request.answer (some (addressOf settings message)) with
  | none => (.error .unexpected, memory)
  | some answer => (.ok answer.toJson, { memory with log := memory.log ++ answer.events })

/-- The functions of the service. -/
def application (settings : Settings) : Application Memory where
  health := .object [("status", .string "ok"), ("app", .string settings.appName)]
  dependency := rateLimit settings
  validator := Request.checkLength settings.maxExpressionLength
  endpoint := runCalculation settings
  handler := responseTo

/-! ## Messages in order -/

/-- The service and the requests that it remembers. -/
structure Server where
  settings : Settings
  entries : Limiter.Entries
  deriving DecidableEq, Repr

/-- A response and what was logged for it. -/
structure Reply where
  response : Response
  events : List Event

namespace Server

/-- A server that remembers no requests. -/
def start (settings : Settings) : Server :=
  ⟨settings, []⟩

/-- The reply to a message in a framework, with the server after it. -/
def handle (fw : Framework) (server : Server) (message : Message) : Reply × Server :=
  let (response, memory) := fw.serve (application server.settings) message ⟨server.entries, []⟩
  (⟨response, memory.log⟩, { server with entries := memory.entries })

/-- The replies to messages in order, with the server after them. -/
def handleAll (fw : Framework) (server : Server) : List Message → List Reply × Server
  | [] => ([], server)
  | message :: messages =>
    let (reply, server) := server.handle fw message
    let (replies, server) := server.handleAll fw messages
    (reply :: replies, server)

/-- The settings do not change. -/
@[simp] theorem settings_handle (fw : Framework) (server : Server) (message : Message) :
    (server.handle fw message).2.settings = server.settings := rfl

end Server

end Service

end TapeMeasure
