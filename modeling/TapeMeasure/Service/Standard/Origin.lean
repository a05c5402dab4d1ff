import TapeMeasure.Service.Message
import TapeMeasure.Service.Settings

/-!
# Origins

A browser tells from which origin a page calls the service, and asks in advance whether it may send
a request that is not simple.  The service names the origin in its answer if it is allowed.  Calls
from a public page into a private network are never allowed.

* `isAllowedOrigin`: the listed origins, and those of applications.
* `originHeader`: the header by which an origin is allowed.
* `Preflight.answer`: the answer to a question in advance, which names all that is refused.
-/

namespace TapeMeasure

namespace Service

open Text

/-- Whether an origin is one of an application: a scheme, and anything but a line end behind it. -/
def hasScheme (schemes : List String) (origin : String) : Bool :=
  schemes.any fun scheme =>
    let front := scheme.toList ++ "://".toList
    front.isPrefixOf origin.toList && !(origin.toList.drop front.length).contains '\n'

/-- Whether browsers may call the service from an origin. -/
def isAllowedOrigin (settings : Settings) (origin : String) : Bool :=
  (originsOf settings.allowedOrigins).contains origin ||
    hasScheme settings.allowedSchemes origin

/-- The header that allows an origin. -/
def originHeader (settings : Settings) (origin : String) : List (String × String) :=
  if isAllowedOrigin settings origin then [("access-control-allow-origin", origin)] else []

/-- The methods that browsers may use from other origins. -/
def allowedMethods : List String :=
  ["GET", "POST", "OPTIONS"]

/-- The headers that browsers may send from other origins. -/
def allowedHeaders : List String :=
  ["accept", "accept-language", "authorization", "content-language", "content-type"]

/-- Whether all headers of a list separated by commas are allowed. -/
def areAllowedHeaders (names : String) : Bool :=
  (splitAt ',' names.toList).all fun name =>
    allowedHeaders.contains (String.ofList (trim name)).toLower

/-- What a browser asks before it sends a request that is not simple. -/
structure Preflight where
  origin : String
  method : String
  /-- The headers of the request, separated by commas. -/
  headers : Option String
  /-- The question whether a private network may be called, whatever its value. -/
  privateNetwork : Option String
  deriving DecidableEq, Repr

namespace Preflight

/-- The question in a message, if it is one. -/
def ofMessage? (message : Message) : Option Preflight :=
  if message.method = "OPTIONS" then do
    let origin ← header? "origin" message.headers
    let method ← header? "access-control-request-method" message.headers
    return {
      origin, method
      headers := header? "access-control-request-headers" message.headers
      privateNetwork := header? "access-control-request-private-network" message.headers }
  else none

/-- What is refused to a browser, in the order in which it is told. -/
def refusals (settings : Settings) (asked : Preflight) : List String :=
  (if isAllowedOrigin settings asked.origin then [] else ["origin"]) ++
    (if allowedMethods.contains asked.method then [] else ["method"]) ++
      (if asked.headers.all areAllowedHeaders then [] else ["headers"]) ++
        (if asked.privateNetwork.isNone then [] else ["private-network"])

/-- The answer to a browser's question whether it may send a request. -/
def answer (settings : Settings) (asked : Preflight) : Response :=
  let refusals := asked.refusals settings
  let headers := originHeader settings asked.origin
  if refusals = [] then ⟨200, headers, .text "OK"⟩
  else ⟨400, headers, .text ("Disallowed CORS " ++ ", ".intercalate refusals)⟩

end Preflight

/-- A response with the header for the origin of its message. -/
def withOrigin (settings : Settings) (message : Message) (response : Response) : Response :=
  match header? "origin" message.headers with
  | none => response
  | some origin =>
    { response with headers := response.headers ++ originHeader settings origin }

end Service

end TapeMeasure
