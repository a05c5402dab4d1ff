import TapeMeasure.Json
import TapeMeasure.Text.Blank
import TapeMeasure.Text.Split

/-!
# Messages and responses

What arrives over the network and what is answered, and how a message tells clients apart.

* `Message`, `Response`: the two sides of an exchange.
* `header?`: the value of a header.
* `clientAddress`: the address that a client is told apart by.
-/

namespace TapeMeasure

namespace Service

open Text

/-- What arrives: a method, a path, headers and a body, with the time of arrival in seconds.  The
value of a header has one character for each byte. -/
structure Message where
  method : String
  path : String
  now : Double
  /-- The address at the other end of the connection. -/
  peer : Option String
  headers : List (String × String)
  body : List UInt8
  deriving DecidableEq, Repr

/-- The body of a response. -/
inductive Content where
  | json (value : Json)
  | text (text : String)
  /-- A page that is not told here. -/
  | page

/-- What is answered. Headers about the kind and length of the content are left out. -/
structure Response where
  status : Nat
  headers : List (String × String)
  content : Content

/-- The value of a header; names are compared without case, and the first one counts. -/
def header? (name : String) (headers : List (String × String)) : Option String :=
  (headers.find? fun header => header.1.toLower == name).map Prod.snd

/-- The first address that a proxy reports, if it reports one. -/
def forwardedAddress? (headers : List (String × String)) : Option String :=
  match header? "x-forwarded-for" headers with
  | none => none
  | some value =>
    let first := trim ((splitAt ',' value.toList).headD [])
    if first = [] then none else some (String.ofList first)

/-- The address of the peer, if it has one. -/
def peerAddress? (peer : Option String) : Option String :=
  peer.filter fun address => !address.isEmpty

/-- The address that a client is told apart by: the one that a trusted proxy reports, else the
peer's, else none that is known. -/
def clientAddress (trustForwardedFor : Bool) (headers : List (String × String))
    (peer : Option String) : String :=
  let forwarded := if trustForwardedFor then forwardedAddress? headers else none
  (forwarded.or (peerAddress? peer)).getD "unknown"

/-- Without a trusted proxy, what it reports does not count. -/
theorem clientAddress_untrusted (headers : List (String × String)) (peer : Option String) :
    clientAddress false headers peer = (peerAddress? peer).getD "unknown" := rfl

end Service

end TapeMeasure
