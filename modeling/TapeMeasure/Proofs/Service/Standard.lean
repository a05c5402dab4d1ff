import TapeMeasure.Proofs.Except
import TapeMeasure.Service.Standard

/-!
# The standard framework is lawful

The laws of frameworks hold for the standard one, so what is proved from them can be run.

* `Standard.route_eq_to_iff`, `Standard.status_of_route_own`: where messages lead.
* `Standard.status_of_read`, `Body.validate_eq_ok_iff`, `Body.status_of_validate`: what is done with
  bodies.
* `Standard.header?_withOrigin`: what is added to a response.
* `Standard.serve_of_read`: the steps of a message whose body was read.
* `standard_lawful`: all laws together.
-/

namespace TapeMeasure

namespace Service

variable {settings : Settings} {maxDepth : Nat} {message : Message} {response : Response}
  {endpoint : Endpoint} {validator : String → Except String String} {body : Body}
  {request : Request}

/-! ## Paths -/

theorem Endpoint.ofPath?_eq_some_iff {path : String} :
    ofPath? path = some endpoint ↔ path = endpoint.path ∨ path = endpoint.path ++ "\n" := by
  constructor
  · intro h
    simpa [leadsTo] using List.find?_some h
  · rintro (rfl | rfl) <;> cases endpoint <;> decide

namespace Standard

/-- A question in advance is no message to an endpoint. -/
theorem ofMessage?_eq_none (h : message.method = endpoint.method) :
    Preflight.ofMessage? message = none := by
  have hmethod : message.method ≠ "OPTIONS" := by
    rw [h]
    cases endpoint <;> decide
  rw [Preflight.ofMessage?, if_neg hmethod]

theorem route_eq_to_iff :
    route settings message = .to endpoint ↔ message.method = endpoint.method ∧
      (message.path = endpoint.path ∨ message.path = endpoint.path ++ "\n") := by
  rw [← Endpoint.ofPath?_eq_some_iff]
  constructor
  · intro h
    rw [route] at h
    split at h
    · cases h
    · split at h
      · rename_i hpath
        split at h <;> cases h
        exact ⟨‹_›, hpath⟩
      · cases h
  · rintro ⟨hmethod, hpath⟩
    simp only [route, ofMessage?_eq_none hmethod, hpath, if_pos hmethod]

@[simp] theorem status_withOrigin (settings : Settings) (message : Message) (response : Response) :
    (withOrigin settings message response).status = response.status := by
  rw [withOrigin]
  split <;> rfl

@[simp] theorem content_withOrigin (settings : Settings) (message : Message)
    (response : Response) :
    (withOrigin settings message response).content = response.content := by
  rw [withOrigin]
  split <;> rfl

theorem status_strayed (message : Message) :
    (strayed message).status ∈ [200, 307, 400, 404, 405] := by
  rw [strayed]
  split
  · split <;> decide
  · split <;> decide

theorem status_preflight (settings : Settings) (asked : Preflight) :
    (asked.answer settings).status ∈ [200, 307, 400, 404, 405] := by
  simp only [Preflight.answer]
  split <;> simp

/-- The framework's own answers. -/
theorem status_of_route_own (h : route settings message = .own response) :
    response.status ∈ [200, 307, 400, 404, 405] := by
  rw [route] at h
  split at h
  · cases h
    exact status_preflight settings _
  · split at h
    · split at h <;> cases h
      rw [status_withOrigin, methodNotAllowed, refusal]
      simp
    · cases h
      rw [status_withOrigin]
      exact status_strayed message

end Standard

/-! ## Bodies -/

theorem Standard.status_of_read (h : Body.read maxDepth message = .error response) :
    response.status ∈ [400, 422] := by
  rw [Body.read] at h
  split at h
  · cases h
  · split at h
    · split at h
      · cases h
      · rename_i fault _
        cases h
        cases fault <;> decide
    · cases h

/-- The check of an expression applies to the text of a member. -/
theorem Request.expressionOf_eq_ok_iff {member : Option Json} {checked : String} :
    expressionOf validator member = .ok checked ↔
      ∃ text, member = some (.string text) ∧ validator text.text = .ok checked := by
  rcases member with _ | ⟨_ | _ | _ | _ | text | _ | _⟩ <;> simp only [expressionOf, reduceCtorEq,
    Option.some.injEq, Json.string.injEq, mapError_eq_ok_iff, false_and, exists_false,
    exists_eq_left']

namespace Body

/-- A body is accepted if it is an object whose members are in order. -/
theorem validate_eq_ok_iff_members :
    body.validate validator = .ok request ↔
      ∃ members, body = .value (.object members) ∧
        Request.expressionOf validator (Json.lastMember? "expression" members) =
          .ok request.expression ∧
        Request.inputMethodOf (Json.lastMember? "input_method" members) =
          .ok request.inputMethod := by
  rw [validate, mapError_eq_ok_iff]
  rcases body with _ | ⟨_ | _ | _ | _ | _ | _ | members⟩ | _ <;>
    simp only [Body.request, reduceCtorEq, false_and, exists_false, value.injEq, Json.object.injEq,
      exists_eq_left', mapError_eq_ok_iff, Request.ofJson_object]

/-- A body is accepted if its fields are in order and the expression passes its check. -/
theorem validate_eq_ok_iff :
    body.validate validator = .ok request ↔
      ∃ expression, body.validate .ok = .ok { request with expression } ∧
        validator expression = .ok request.expression := by
  simp only [validate_eq_ok_iff_members, Request.expressionOf_eq_ok_iff, Except.ok.injEq]
  constructor
  · rintro ⟨members, hbody, ⟨text, htext, hchecked⟩, hmethod⟩
    exact ⟨text.text, ⟨members, hbody, ⟨text, htext, rfl⟩, hmethod⟩, hchecked⟩
  · rintro ⟨_, ⟨members, hbody, ⟨text, htext, rfl⟩, hmethod⟩, hchecked⟩
    exact ⟨members, hbody, ⟨text, htext, hchecked⟩, hmethod⟩

/-- A body with issues is refused. -/
theorem status_of_validate (h : body.validate validator = .error (some response)) :
    response.status = 422 := by
  obtain ⟨issues, -, hissues⟩ := mapError_eq_error_iff.mp h
  rw [refusal?] at hissues
  split at hissues <;> cases hissues
  rfl

end Body

/-! ## Responses -/

namespace Standard

/-- A response gets no other header than that for its origin. -/
theorem header?_withOrigin {name : String} (h : isOriginHeader name = false) :
    header? name (withOrigin settings message response).headers =
      header? name response.headers := by
  have hname : ("access-control-allow-origin".toLower == name) = false := by
    rw [beq_eq_false_iff_ne]
    rintro rfl
    revert h
    decide +kernel
  rw [withOrigin]
  split
  · rfl
  · rw [header?, List.find?_append, originHeader]
    split <;> simp [header?, hname]

/-! ## The steps in order -/

section Serve

variable {State : Type} {app : Application State} {state after final : State}
  {headers : List (String × String)} {raised : Raised}

theorem serve_of_own (h : route settings message = .own response) :
    serve maxDepth settings app message state = (response, state) := by
  rw [serve, h]

theorem serve_of_health (h : route settings message = .to .health) :
    serve maxDepth settings app message state =
      (deliver settings message (some ⟨200, [], .json app.health⟩), state) := by
  rw [serve, h]

theorem serve_of_unreadable (h : route settings message = .to .calculation)
    (hread : Body.read maxDepth message = .error response) :
    serve maxDepth settings app message state =
      (deliver settings message (some response), state) := by
  rw [serve, h]
  simp only [hread]

variable (hroute : route settings message = .to .calculation)
  (hread : Body.read maxDepth message = .ok body)

include hroute hread

/-- Once its body was read, a message is answered by the functions of the service. -/
theorem serve_of_read :
    serve maxDepth settings app message state =
      (deliver settings message (respond app message body state).1,
        (respond app message body state).2) := by
  rw [serve, hroute]
  simp only [hread]

theorem serve_of_raised (h : app.dependency message state = (.error raised, after)) :
    serve maxDepth settings app message state =
      (deliver settings message (app.handled? raised), after) := by
  rw [serve_of_read hroute hread, respond, h]

variable (hheaders : app.dependency message state = (.ok headers, after))

include hheaders

theorem serve_of_invalid {response? : Option Response}
    (h : body.validate app.validator = .error response?) :
    serve maxDepth settings app message state = (deliver settings message response?, after) := by
  rw [serve_of_read hroute hread, respond, hheaders]
  simp only [h]

variable (hrequest : body.validate app.validator = .ok request)

include hrequest

theorem serve_of_returned {value : Json}
    (h : app.endpoint message request after = (.ok value, final)) :
    serve maxDepth settings app message state =
      (deliver settings message (some ⟨200, headers, .json value⟩), final) := by
  rw [serve_of_read hroute hread, respond, hheaders]
  simp only [hrequest, h]

theorem serve_of_endpoint_raised
    (h : app.endpoint message request after = (.error raised, final)) :
    serve maxDepth settings app message state =
      (deliver settings message (app.handled? raised), final) := by
  rw [serve_of_read hroute hread, respond, hheaders]
  simp only [hrequest, h]

end Serve

end Standard

/-- The laws of frameworks hold for the standard framework. -/
theorem standard_lawful (maxDepth : Nat) (settings : Settings) :
    (standard maxDepth settings).Lawful where
  route_of_path _ _ hmethod hpath := Standard.route_eq_to_iff.mpr ⟨hmethod, Or.inl hpath⟩
  path_of_route _ _ := Standard.route_eq_to_iff.mp
  status_own _ _ := Standard.status_of_route_own
  status_unreadable _ _ := Standard.status_of_read
  status_invalid _ _ _ := Body.status_of_validate
  validate_iff _ _ _ := Body.validate_eq_ok_iff
  status_deliver := Standard.status_withOrigin settings
  content_deliver := Standard.content_withOrigin settings
  header_deliver _ _ _ := Standard.header?_withOrigin
  status_failure _ := rfl
  serve_own _ _ _ _ := Standard.serve_of_own
  serve_health _ _ _ := Standard.serve_of_health
  serve_unreadable _ _ _ _ := Standard.serve_of_unreadable
  serve_stopped _ _ _ _ _ _ h := Standard.serve_of_raised h.route_eq h.read_eq
  serve_invalid _ _ _ _ _ _ _ h hheaders :=
    Standard.serve_of_invalid h.route_eq h.read_eq hheaders
  serve_returned _ _ _ _ _ _ _ _ _ h hheaders hrequest :=
    Standard.serve_of_returned h.route_eq h.read_eq hheaders hrequest
  serve_raised _ _ _ _ _ _ _ _ _ h hheaders hrequest :=
    Standard.serve_of_endpoint_raised h.route_eq h.read_eq hheaders hrequest

end Service

end TapeMeasure
