import TapeMeasure.Json
import TapeMeasure.Service.Request

/-!
# Issues of bodies

A JSON value is checked member by member against the declaration of a request; every fault is an
issue with its place in the value.  Half of a surrogate pair counts as a character.

* `Request.ofJson`: the request in a value, or all issues of it.
* `Request.ofJson_object`: the check of an object, member by member.
-/

namespace TapeMeasure

namespace Service

/-- The kinds of fault that a body can have. -/
inductive Issue.Kind where
  | missing
  | stringType
  | valueError
  | enumeration
  | modelType
  | modelAttributesType
  | jsonInvalid
  deriving DecidableEq, Repr

/-- The name of a kind of fault. -/
def Issue.Kind.text : Issue.Kind → String
  | missing => "missing"
  | stringType => "string_type"
  | valueError => "value_error"
  | enumeration => "enum"
  | modelType => "model_type"
  | modelAttributesType => "model_attributes_type"
  | jsonInvalid => "json_invalid"

/-- A fault of a body and the members that lead to its place. -/
structure Issue where
  kind : Issue.Kind
  location : List String
  deriving DecidableEq, Repr

/-- An issue as it is answered. -/
def Issue.toJson (issue : Issue) : Json :=
  let location : List Json := issue.location.map fun (name : String) => .string name
  .object [("type", .string issue.kind.text), ("loc", .array location)]

/-- The value that an issue is about: the object that lacks a member, or the value in the issue's
place. -/
def Issue.subject (value : Json) (issue : Issue) : Json :=
  match issue.kind with
  | .missing => value.follow issue.location.dropLast
  | _ => value.follow issue.location

/-- The same issue inside a member. -/
def Issue.within (member : String) (issue : Issue) : Issue :=
  { issue with location := member :: issue.location }

namespace Request

/-- The expression of a request, as its check returns it. -/
def expressionOf (validator : String → Except String String) :
    Option Json → Except Issue.Kind String
  | none => .error .missing
  | some (.string expression) => (validator expression.text).mapError fun _ => .valueError
  | some _ => .error .stringType

/-- The input method of a request. -/
def inputMethodOf : Option Json → Except Issue.Kind InputMethod
  | none => .ok defaultInputMethod
  | some (.string (.whole name)) =>
    match InputMethod.ofText? name with
    | some method => .ok method
    | none => .error .enumeration
  | some _ => .error .enumeration

/-- The issues of a member that was checked. -/
def issuesOf {α : Type} (member : String) : Except Issue.Kind α → List Issue
  | .ok _ => []
  | .error kind => [⟨kind, [member]⟩]

/-- The request in a JSON value, or all issues; the expression comes first. -/
def ofJson (validator : String → Except String String) (body : Json) :
    Except (List Issue) Request :=
  match body with
  | .object _ =>
    let expression := expressionOf validator (body.member? "expression")
    let inputMethod := inputMethodOf (body.member? "input_method")
    match expression, inputMethod with
    | .ok expression, .ok inputMethod => .ok ⟨expression, inputMethod⟩
    | _, _ => .error (issuesOf "expression" expression ++ issuesOf "input_method" inputMethod)
  | _ => .error [⟨.modelType, []⟩]

/-- An object is a request exactly if both of its members are in order. -/
theorem ofJson_object {validator : String → Except String String}
    {members : List (JsonString × Json)} {request : Request} :
    ofJson validator (.object members) = .ok request ↔
      expressionOf validator (Json.lastMember? "expression" members) = .ok request.expression ∧
        inputMethodOf (Json.lastMember? "input_method" members) = .ok request.inputMethod := by
  obtain ⟨expression, inputMethod⟩ := request
  simp only [ofJson, Json.member?]
  cases expressionOf validator (Json.lastMember? "expression" members) <;>
    cases inputMethodOf (Json.lastMember? "input_method" members) <;> simp

end Request

end Service

end TapeMeasure
