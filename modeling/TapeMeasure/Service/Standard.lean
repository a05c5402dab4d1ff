import TapeMeasure.Service.Framework
import TapeMeasure.Service.Standard.Body
import TapeMeasure.Service.Standard.Origin
import TapeMeasure.Service.Standard.Path

/-!
# The standard framework

One framework, in which the service can be run.  It is lawful, and nothing but that is used of it.
How deep it can read into a body depends on the machine.

* `Standard.route`: where messages lead, with what the framework answers on its own.
* `Standard.serve`: the steps of a message in order.
* `standard`: the framework with the origins of some settings, on a machine of some depth.
-/

namespace TapeMeasure

namespace Service

namespace Standard

/-- The response to a method that an endpoint does not serve. -/
def methodNotAllowed (endpoint : Endpoint) : Response :=
  refusal 405 [("allow", endpoint.method)] "Method Not Allowed"

/-- The response that sends a client elsewhere; the host that completes its location is not known
here. -/
def redirection : Response :=
  ⟨307, [], .text ""⟩

/-- The response to a message that leads to no endpoint. -/
def strayed (message : Message) : Response :=
  if isPage message.path then
    if message.method = "GET" || message.method = "HEAD" then ⟨200, [], .page⟩
    else refusal 405 [] "Method Not Allowed"
  else if isRedirected message.path then redirection
  else refusal 404 [] "Not Found"

/-- Where a message leads. Questions in advance are answered for every path. -/
def route (settings : Settings) (message : Message) : Route :=
  match Preflight.ofMessage? message with
  | some asked => .own (asked.answer settings)
  | none =>
    match Endpoint.ofPath? message.path with
    | some endpoint =>
      if message.method = endpoint.method then .to endpoint
      else .own (withOrigin settings message (methodNotAllowed endpoint))
    | none => .own (withOrigin settings message (strayed message))

/-- What is sent for a response. The response to an unexpected failure names no origin. -/
def deliver (settings : Settings) (message : Message) : Option Response → Response
  | some response => withOrigin settings message response
  | none => ⟨500, [], .text "Internal Server Error"⟩

/-- The response to a message for calculation, whose body was read. -/
def respond {State : Type} (app : Application State) (message : Message) (body : Body)
    (state : State) : Option Response × State :=
  match app.dependency message state with
  | (.error raised, state) => (app.handled? raised, state)
  | (.ok headers, state) =>
    match body.validate app.validator with
    | .error response? => (response?, state)
    | .ok request =>
      match app.endpoint message request state with
      | (.error raised, state) => (app.handled? raised, state)
      | (.ok value, state) => (some ⟨200, headers, .json value⟩, state)

/-- What is sent for a message, and what is remembered after it. -/
def serve (maxDepth : Nat) (settings : Settings) {State : Type} (app : Application State)
    (message : Message) (state : State) : Response × State :=
  match route settings message with
  | .own response => (response, state)
  | .to .health => (deliver settings message (some ⟨200, [], .json app.health⟩), state)
  | .to .calculation =>
    match Body.read maxDepth message with
    | .error response => (deliver settings message (some response), state)
    | .ok body =>
      let (response?, state) := respond app message body state
      (deliver settings message response?, state)

end Standard

/-- The standard framework. -/
def standard (maxDepth : Nat) (settings : Settings) : Framework where
  Body := Body
  route := Standard.route settings
  read := Body.read maxDepth
  validate := Body.validate
  deliver := Standard.deliver settings
  serve := Standard.serve maxDepth settings

end Service

end TapeMeasure
