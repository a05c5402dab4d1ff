import TapeMeasure.Json.Bytes
import TapeMeasure.Service.Message
import TapeMeasure.Service.Standard.Issue

/-!
# Bodies of messages

A body is looked at twice.  First it is read as JSON, if its content type announces that; a body
that cannot be read is answered at once.  Later the request in it is checked, and a response to
issues repeats the values that they are about, without members that have internal names.

* `isJsonType`: the content types that announce JSON.
* `Body.read`: the first look, with the response to a body that cannot be read.
* `Body.request`: the second look, with all issues.
* `Body.validate`: the second look, with the response to the issues; there is none if strict JSON
  has no text for what is repeated.
-/

namespace TapeMeasure

namespace Service

open Text

/-- A refusal with a message. -/
def refusal (status : Nat) (headers : List (String × String)) (message : String) : Response :=
  ⟨status, headers, .json (.object [("detail", .string message)])⟩

/-- Whether a content type announces JSON: `application/json`, or an application type that ends
with `+json`; parameters do not count. -/
def isJsonType (contentType : String) : Bool :=
  let plain := (trim ((splitAt ';' contentType.toList).headD [])).map Char.toLower
  match splitAt '/' plain with
  | [main, sub] =>
    main == "application".toList && (sub == "json".toList || "+json".toList.isSuffixOf sub)
  | _ => false

/-- What is known of a body at the first look. -/
inductive Body where
  | empty
  | value (value : Json)
  /-- The content is not announced as JSON and is not looked at. -/
  | other

/-- Whether the name of a member is internal: responses do not repeat such members. -/
def isInternalName (name : JsonString) : Bool :=
  "_sa".toList.isPrefixOf name.text.toList

/-- The response that tells issues. -/
def unprocessable (issues : List Issue) : Response :=
  ⟨422, [], .json (.object [("detail", .array (issues.map Issue.toJson))])⟩

/-- The response to a body that cannot be read as JSON. -/
def unreadable : Json.Fault → Response
  | .malformed => unprocessable [⟨.jsonInvalid, ["body"]⟩]
  | _ => refusal 400 [] "There was an error parsing the body"

namespace Body

/-- The body of a message, or the response to a body that cannot be read, for instance because its
arrays and objects are nested too deep. -/
def read (maxDepth : Nat) (message : Message) : Except Response Body :=
  if message.body.isEmpty then .ok .empty
  else if (header? "content-type" message.headers).any isJsonType then
    match Json.ofBytes maxDepth message.body with
    | .ok json => .ok (.value json)
    | .error fault => .error (unreadable fault)
  else .ok .other

/-- The request in a body, or all issues. -/
def request (validator : String → Except String String) : Body → Except (List Issue) Request
  | .empty => .error [⟨.missing, ["body"]⟩]
  | .value (.object members) =>
    (Request.ofJson validator (.object members)).mapError fun issues =>
      issues.map (Issue.within "body")
  | _ => .error [⟨.modelAttributesType, ["body"]⟩]

/-- The values of a body, reached from the name that issues begin with. -/
def root : Body → Json
  | .value json => .object [("body", json)]
  | _ => .object []

/-- What a response repeats of the value that an issue is about. -/
def repeated (body : Body) (issue : Issue) : Json :=
  (issue.subject body.root).withoutMembers isInternalName

/-- The response to a body with issues, if it can be written. -/
def refusal? (body : Body) (issues : List Issue) : Option Response :=
  if issues.all fun issue => (body.repeated issue).isStrict then some (unprocessable issues)
  else none

/-- The request in a body, or the response to all issues, if it can be written. -/
def validate (validator : String → Except String String) (body : Body) :
    Except (Option Response) Request :=
  (body.request validator).mapError body.refusal?

end Body

end Service

end TapeMeasure
