import TapeMeasure.Double
import TapeMeasure.Problem
import TapeMeasure.Service.Endpoint
import TapeMeasure.Service.Message
import TapeMeasure.Service.Request

/-!
# Frameworks

The service runs inside a framework, which receives the messages.  The framework decides where a
message leads, reads its body and checks it against the declaration of a request; in between it
calls the functions of the service, and it sends what is answered.  How it does all this is not the
service's business, so a framework is a parameter of the server.  Of a framework only that is used
which its documentation promises, and these promises are the laws of `Framework.Lawful`.

* `Application`: the functions that the service hands to a framework.
* `Framework`: what a framework does with a message, in single steps and as a whole.
* `Framework.Lawful`: where messages lead, what single steps answer, and the order of the steps.
-/

namespace TapeMeasure

namespace Service

/-! ## Functions of the service -/

/-- What a function of the service raises: a problem, or something that it does not expect. -/
inductive Raised where
  | problem (problem : Problem)
  | unexpected
  deriving DecidableEq, Repr

/-- The functions that the service hands to a framework. A `State` is what the service remembers;
the framework does not look into it. -/
structure Application (State : Type) where
  /-- What the endpoint for health returns. -/
  health : Json
  /-- The dependency of the endpoint for calculation: it returns headers for the response. -/
  dependency : Message → State → Except Raised (List (String × String)) × State
  /-- The check of the expression of a request, which may replace it. -/
  validator : String → Except String String
  /-- The endpoint for calculation. -/
  endpoint : Message → Request → State → Except Raised Json × State
  /-- The handler for problems that are raised. It may fail itself. -/
  handler : Problem → Except Double.TruncationFault Response

/-- The response that the handler gives for what is raised, if it gives one. -/
def Application.handled? {State : Type} (app : Application State) : Raised → Option Response
  | .problem problem => (app.handler problem).toOption
  | .unexpected => none

/-! ## Frameworks -/

/-- Where a message leads: to an endpoint of the service, or to an answer of the framework's own,
such as a refusal, a redirection, a page of documentation or what a browser asks in advance. -/
inductive Route where
  | to (endpoint : Endpoint)
  | own (response : Response)

/-- What a framework does with a message. -/
structure Framework where
  /-- What is known of a body that was read. -/
  Body : Type
  route : Message → Route
  /-- The body of a message, or the response to a body that cannot be read as JSON. -/
  read : Message → Except Response Body
  /-- The request in a body, or the response to all that is wrong with it, which is missing if it
  cannot be written. The given function checks the expression. -/
  validate : (String → Except String String) → Body → Except (Option Response) Request
  /-- What is sent for a response, with headers for the origin of the message; without a response,
  what is sent for an unexpected failure. -/
  deliver : Message → Option Response → Response
  /-- What is sent for a message, and what the service remembers after it. -/
  serve : {State : Type} → Application State → Message → State → Response × State

/-- Whether a header tells browsers which origins a response is for. -/
def isOriginHeader (name : String) : Bool :=
  name == "vary" || "access-control-".toList.isPrefixOf name.toList

/-- A message is for calculation, and its body is read. -/
structure Framework.Reads (fw : Framework) (message : Message) (body : fw.Body) : Prop where
  route_eq : fw.route message = .to .calculation
  read_eq : fw.read message = .ok body

/-- What the documentation of a framework promises. -/
structure Framework.Lawful (fw : Framework) : Prop where
  /-- The method and the path of an endpoint lead to it. -/
  route_of_path : ∀ message endpoint, message.method = Endpoint.method endpoint →
    message.path = endpoint.path → fw.route message = .to endpoint
  /-- Nothing else does. Whether a line end behind the path matters is left open. -/
  path_of_route : ∀ message endpoint, fw.route message = .to endpoint →
    message.method = endpoint.method ∧
      (message.path = endpoint.path ∨ message.path = endpoint.path ++ "\n")
  /-- The framework's own answers are successes, redirections, and refusals of a question in
  advance, of a path or of a method. -/
  status_own : ∀ message response, fw.route message = .own response →
    response.status ∈ [200, 307, 400, 404, 405]
  /-- A body that cannot be read is refused. -/
  status_unreadable : ∀ message response, fw.read message = .error response →
    response.status ∈ [400, 422]
  /-- A body with issues is refused. -/
  status_invalid : ∀ validator body response,
    fw.validate validator body = .error (some response) → response.status = 422
  /-- A body is accepted if its fields are in order and the expression passes its check; the
  request has what the check returns. -/
  validate_iff : ∀ validator body request, fw.validate validator body = .ok request ↔
    ∃ expression, fw.validate .ok body = .ok { request with expression } ∧
      validator expression = .ok request.expression
  status_deliver : ∀ message response,
    (fw.deliver message (some response)).status = response.status
  content_deliver : ∀ message response,
    (fw.deliver message (some response)).content = response.content
  /-- Only headers about origins are added to a response. -/
  header_deliver : ∀ message response name, isOriginHeader name = false →
    header? name (fw.deliver message (some response)).headers = header? name response.headers
  /-- An unexpected failure is an error of the server. -/
  status_failure : ∀ message, (fw.deliver message none).status = 500
  /-- For its own answers the framework calls nothing. -/
  serve_own : ∀ {State : Type} (app : Application State) message state response,
    fw.route message = .own response → fw.serve app message state = (response, state)
  serve_health : ∀ {State : Type} (app : Application State) message state,
    fw.route message = .to .health →
      fw.serve app message state = (fw.deliver message (some ⟨200, [], .json app.health⟩), state)
  /-- For calculation, the body is read first. If it cannot be read, nothing is called. -/
  serve_unreadable : ∀ {State : Type} (app : Application State) message state response,
    fw.route message = .to .calculation → fw.read message = .error response →
      fw.serve app message state = (fw.deliver message (some response), state)
  /-- Then the dependency is called. If it raises something, the body is not checked. -/
  serve_stopped : ∀ {State : Type} (app : Application State) message state body raised after,
    fw.Reads message body → app.dependency message state = (.error raised, after) →
      fw.serve app message state = (fw.deliver message (app.handled? raised), after)
  /-- Then the body is checked. The response to its issues has no headers of the dependency. -/
  serve_invalid : ∀ {State : Type} (app : Application State) message state body headers after
    response?, fw.Reads message body → app.dependency message state = (.ok headers, after) →
      fw.validate app.validator body = .error response? →
        fw.serve app message state = (fw.deliver message response?, after)
  /-- Then the endpoint is called. What it returns is sent with the headers of the dependency. -/
  serve_returned : ∀ {State : Type} (app : Application State) message state body headers after
    request value final, fw.Reads message body →
      app.dependency message state = (.ok headers, after) →
        fw.validate app.validator body = .ok request →
          app.endpoint message request after = (.ok value, final) →
            fw.serve app message state =
              (fw.deliver message (some ⟨200, headers, .json value⟩), final)
  /-- What the endpoint raises is handled like what the dependency raises. -/
  serve_raised : ∀ {State : Type} (app : Application State) message state body headers after
    request raised final, fw.Reads message body →
      app.dependency message state = (.ok headers, after) →
        fw.validate app.validator body = .ok request →
          app.endpoint message request after = (.error raised, final) →
            fw.serve app message state = (fw.deliver message (app.handled? raised), final)

end Service

end TapeMeasure
