import TapeMeasure.Proofs.Double.Finite
import TapeMeasure.Proofs.Except
import TapeMeasure.Service.Counted

/-!
# The reply to one message

A message counts or it does not.  One that counts is checked once, under the address of its client
and at its own time, and its response follows from the answer to the check and from its body; one
that does not count leaves the limiter alone.  All this holds in every lawful framework.

The service fails on a message that counts in three ways: its check has no answer, the wait of a
denied check is infinite, or the framework cannot write the response to the issues of its body.

* `isCounted_iff`: the messages that count.
* `response?`, `serve_of_reads`: what becomes of a message that counts, step by step.
* `IsRequest`: the bodies that pass the check of the service.
* `Fails`: the ways in which the service fails on a message that counts.
* `Follows`, `handle_of_isCounted`: how the response follows from the answer to the check.
* `Passes`, `handle_of_not_isCounted`: what becomes of any other message.
-/

namespace TapeMeasure

namespace Service

variable {fw : Framework} {settings : Settings} {message : Message} {response : Response}
  {body : fw.Body} {request : Request} {decision : Limiter.Decision}
  {answer : Except Limiter.Fault Limiter.Decision}

/-! ## Messages that count -/

theorem isCounted_iff : isCounted fw message = true ↔ ∃ body, fw.Reads message body := by
  rw [isCounted]
  split
  · rename_i hroute
    constructor
    · intro h
      cases hread : fw.read message with
      | error response =>
        rw [hread] at h
        cases h
      | ok body => exact ⟨body, hroute, hread⟩
    · rintro ⟨body, hreads⟩
      rw [hreads.read_eq]
      rfl
  · rename_i hother
    exact iff_of_false Bool.false_ne_true fun ⟨_, hreads⟩ => hother hreads.route_eq

/-- The answer to the check that a message stands for. -/
def checkOf (settings : Settings) (entries : Limiter.Entries) (message : Message) :
    Except Limiter.Fault Limiter.Decision × Limiter.Entries :=
  Limiter.check settings.limits entries message.now (limiterKey (addressOf settings message))

/-! ## The functions of the service -/

section Functions

variable {memory : Memory}

theorem rateLimit_of_error {fault : Limiter.Fault}
    (h : (checkOf settings memory.entries message).1 = .error fault) :
    rateLimit settings message memory =
      (.error .unexpected, ⟨(checkOf settings memory.entries message).2, memory.log⟩) := by
  rw [checkOf] at h
  simp only [rateLimit, h, checkOf]

theorem rateLimit_of_allowed (h : (checkOf settings memory.entries message).1 = .ok decision)
    (hallowed : decision.allowed = true) :
    rateLimit settings message memory =
      (.ok (limitHeaders decision),
        ⟨(checkOf settings memory.entries message).2, memory.log⟩) := by
  rw [checkOf] at h
  simp only [rateLimit, h, checkOf, if_pos hallowed]

/-- A denied message is logged. -/
theorem exists_rateLimit_of_denied
    (h : (checkOf settings memory.entries message).1 = .ok decision)
    (hdenied : decision.allowed = false) :
    ∃ log, rateLimit settings message memory =
      (.error (.problem (.rateLimit decision.limit decision.retryAfter)),
        ⟨(checkOf settings memory.entries message).2, log⟩) := by
  rw [checkOf] at h
  simp only [rateLimit, h, checkOf, hdenied]
  exact ⟨_, rfl⟩

/-- A request has no answer exactly if its calculation breaks down. -/
theorem answer_eq_none_iff {ip : Option String} :
    request.answer ip = none ↔ calculate request.expression = .breakdown := by
  rw [Request.answer]
  cases calculate request.expression with
  | breakdown => exact iff_of_true rfl rfl
  | answer result => exact iff_of_false (Option.some_ne_none _) Outcome.noConfusion
  | failure event => exact iff_of_false (Option.some_ne_none _) Outcome.noConfusion

/-- The answer to a request for an expression: its result is that of the expression alone. -/
def resultJson (expression : String) : Json :=
  .object [("result", ((calculate expression).result?.map Result.toJson).getD .null)]

theorem runCalculation_of_breakdown (h : calculate request.expression = .breakdown) :
    runCalculation settings message request memory = (.error .unexpected, memory) := by
  rw [runCalculation, answer_eq_none_iff.mpr h]

theorem exists_runCalculation (h : calculate request.expression ≠ .breakdown) :
    ∃ log, runCalculation settings message request memory =
      (.ok (resultJson request.expression), ⟨memory.entries, log⟩) := by
  obtain ⟨answer, hanswer⟩ :
      ∃ answer, request.answer (some (addressOf settings message)) = some answer :=
    Option.ne_none_iff_exists'.mp (mt answer_eq_none_iff.mp h)
  simp only [runCalculation, hanswer, Answer.toJson, Request.result_answer hanswer, resultJson]
  exact ⟨_, rfl⟩

end Functions

/-! ## What becomes of a message that counts -/

/-- The response to an allowed message, by what its body holds. -/
def allowedResponse? (decision : Limiter.Decision) :
    Except (Option Response) Request → Option Response
  | .error refusal? => refusal?
  | .ok request =>
    if calculate request.expression = .breakdown then none
    else some ⟨200, limitHeaders decision, .json (resultJson request.expression)⟩

/-- The response to a message whose body was read, by the answer to its check, before it is sent;
there is none if the service fails. -/
def response? (fw : Framework) (settings : Settings) (body : fw.Body) :
    Except Limiter.Fault Limiter.Decision → Option Response
  | .error _ => none
  | .ok decision =>
    if decision.allowed then
      allowedResponse? decision
        (fw.validate (Request.checkLength settings.maxExpressionLength) body)
    else (responseTo (.rateLimit decision.limit decision.retryAfter)).toOption

/-- A message whose body was read is checked once, and answered by that check and its body. -/
theorem serve_of_reads (hfw : fw.Lawful) (h : fw.Reads message body) (memory : Memory) :
    (fw.serve (application settings) message memory).1 =
        fw.deliver message
          (response? fw settings body (checkOf settings memory.entries message).1) ∧
      (fw.serve (application settings) message memory).2.entries =
        (checkOf settings memory.entries message).2 := by
  cases hanswer : (checkOf settings memory.entries message).1 with
  | error fault =>
    rw [hfw.serve_stopped _ _ _ _ _ _ h (rateLimit_of_error hanswer)]
    exact ⟨rfl, rfl⟩
  | ok decision =>
    rw [response?]
    by_cases hallowed : decision.allowed = true
    · have hheaders := rateLimit_of_allowed hanswer hallowed
      rw [if_pos hallowed]
      cases hbody : fw.validate (Request.checkLength settings.maxExpressionLength) body with
      | error refusal? =>
        rw [hfw.serve_invalid _ _ _ _ _ _ _ h hheaders hbody]
        exact ⟨rfl, rfl⟩
      | ok request =>
        by_cases hcalculate : calculate request.expression = .breakdown
        · rw [hfw.serve_raised _ _ _ _ _ _ _ _ _ h hheaders hbody
            (runCalculation_of_breakdown hcalculate), allowedResponse?, if_pos hcalculate]
          exact ⟨rfl, rfl⟩
        · obtain ⟨log, hendpoint⟩ := exists_runCalculation hcalculate
          rw [hfw.serve_returned _ _ _ _ _ _ _ _ _ h hheaders hbody hendpoint,
            allowedResponse?, if_neg hcalculate]
          exact ⟨rfl, rfl⟩
    · obtain ⟨log, hdependency⟩ :=
        exists_rateLimit_of_denied hanswer (Bool.eq_false_iff.mpr hallowed)
      rw [hfw.serve_stopped _ _ _ _ _ _ h hdependency, if_neg hallowed]
      exact ⟨rfl, rfl⟩

/-! ## How the response follows -/

/-- Whether a body holds a request: its fields are in order, and the expression has at most as many
characters as the settings allow. -/
def IsRequest (fw : Framework) (settings : Settings) (body : fw.Body) (request : Request) : Prop :=
  fw.validate .ok body = .ok request ∧
    (request.expression.length : Int) ≤ settings.maxExpressionLength

/-- A body is accepted exactly if it holds a request. -/
theorem validate_eq_ok_iff_isRequest (hfw : fw.Lawful) :
    fw.validate (Request.checkLength settings.maxExpressionLength) body = .ok request ↔
      IsRequest fw settings body request := by
  rw [hfw.validate_iff, IsRequest]
  simp only [Request.checkLength_eq_ok_iff]
  constructor
  · rintro ⟨_, hfields, rfl, hlength⟩
    exact ⟨hfields, hlength⟩
  · rintro ⟨hfields, hlength⟩
    exact ⟨_, hfields, rfl, hlength⟩

/-- Whether the framework cannot write the response to the issues of a body. -/
def IsUnwritable (fw : Framework) (settings : Settings) (body : fw.Body) : Prop :=
  fw.validate (Request.checkLength settings.maxExpressionLength) body = .error none

/-- The response to a request that was calculated. It tells the client about its limit. -/
structure IsResult (decision : Limiter.Decision) (request : Request) (response : Response) :
    Prop where
  status_eq : response.status = 200
  content_eq : response.content = .json (resultJson request.expression)
  limit_eq : header? "x-ratelimit-limit" response.headers =
    some (Text.integerText decision.limit)
  remaining_eq : header? "x-ratelimit-remaining" response.headers =
    some (Text.integerText decision.remaining)
  reset_eq : header? "x-ratelimit-reset" response.headers =
    some (Text.integerText decision.resetAt)

/-- The ways in which the service fails on a message that counts, by its body and the answer to its
check. -/
inductive Fails (fw : Framework) (settings : Settings) (body : fw.Body) :
    Except Limiter.Fault Limiter.Decision → Prop
  | noAnswer (fault : Limiter.Fault) : Fails fw settings body (.error fault)
  | noWait {decision : Limiter.Decision} (hdenied : decision.allowed = false)
      (hwait : decision.retryAfter.isFinite = false) : Fails fw settings body (.ok decision)
  | unwritable {decision : Limiter.Decision} (hallowed : decision.allowed = true)
      (hbody : IsUnwritable fw settings body) : Fails fw settings body (.ok decision)

/-- How the response to a message that counts follows from its body and the answer to its check.
Whether a request whose calculation breaks down has another response is left open. -/
structure Follows (fw : Framework) (settings : Settings) (body : fw.Body)
    (answer : Except Limiter.Fault Limiter.Decision) (response : Response) : Prop where
  /-- A denied client is told to wait, whatever its body. -/
  denied_iff : response.status = 429 ↔
    ∃ decision, answer = .ok decision ∧ decision.allowed = false ∧
      decision.retryAfter.isFinite = true
  /-- An allowed client is told the issues of its body. -/
  refused_iff : response.status = 422 ↔
    ∃ decision, answer = .ok decision ∧ decision.allowed = true ∧
      (∀ request, ¬ IsRequest fw settings body request) ∧ ¬ IsUnwritable fw settings body
  /-- An allowed client whose body holds a request gets the result. -/
  calculated : ∀ decision, answer = .ok decision → decision.allowed = true →
    ∀ request, IsRequest fw settings body request → calculate request.expression ≠ .breakdown →
      IsResult decision request response
  status_of_fails : Fails fw settings body answer → response.status = 500
  fails_of_status : response.status = 500 →
    Fails fw settings body answer ∨
      ∃ request, IsRequest fw settings body request ∧ calculate request.expression = .breakdown

/-- The status of the response to a problem of a denied client: there is a response exactly if the
wait is finite. -/
theorem status_responseTo_rateLimit (limit : Int) (retryAfter : Double) :
    (responseTo (.rateLimit limit retryAfter)).toOption.map Response.status =
      if retryAfter.isFinite = true then some 429 else none := by
  rw [responseTo]
  cases htruncate : retryAfter.truncate with
  | ok seconds =>
    rw [if_pos (Double.exists_truncate_iff.mp ⟨seconds, htruncate⟩)]
    rfl
  | error fault =>
    rw [if_neg]
    · rfl
    · intro hfinite
      obtain ⟨seconds, hseconds⟩ := Double.exists_truncate_iff.mpr hfinite
      rw [htruncate] at hseconds
      cases hseconds

theorem status_deliver (hfw : fw.Lawful) (message : Message) (response? : Option Response) :
    (fw.deliver message response?).status = (response?.map Response.status).getD 500 := by
  cases response? with
  | none => exact hfw.status_failure message
  | some response => exact hfw.status_deliver message response

theorem header?_limitHeaders (decision : Limiter.Decision) :
    header? "x-ratelimit-limit" (limitHeaders decision) =
        some (Text.integerText decision.limit) ∧
      header? "x-ratelimit-remaining" (limitHeaders decision) =
        some (Text.integerText decision.remaining) ∧
      header? "x-ratelimit-reset" (limitHeaders decision) =
        some (Text.integerText decision.resetAt) := by
  have hlower : ∀ name ∈ ["x-ratelimit-limit", "x-ratelimit-remaining", "x-ratelimit-reset"],
      name.toLower = name := by decide +kernel
  simp [header?, limitHeaders, hlower]

/-- What is sent for the result of a request is the result with the headers about the limit. -/
theorem isResult_deliver (hfw : fw.Lawful) (message : Message) (decision : Limiter.Decision)
    (request : Request) :
    IsResult decision request (fw.deliver message
      (some ⟨200, limitHeaders decision, .json (resultJson request.expression)⟩)) where
  status_eq := hfw.status_deliver message _
  content_eq := hfw.content_deliver message _
  limit_eq := (hfw.header_deliver message _ _ (by decide)).trans (header?_limitHeaders decision).1
  remaining_eq :=
    (hfw.header_deliver message _ _ (by decide)).trans (header?_limitHeaders decision).2.1
  reset_eq :=
    (hfw.header_deliver message _ _ (by decide)).trans (header?_limitHeaders decision).2.2

theorem follows_error (settings : Settings) (body : fw.Body) (fault : Limiter.Fault)
    (hstatus : response.status = 500) : Follows fw settings body (.error fault) response where
  denied_iff := by simp [hstatus]
  refused_iff := by simp [hstatus]
  calculated := by simp
  status_of_fails := fun _ => hstatus
  fails_of_status := fun _ => Or.inl (.noAnswer fault)

theorem follows_denied (settings : Settings) (body : fw.Body) (hdenied : decision.allowed = false)
    (hstatus : response.status = if decision.retryAfter.isFinite = true then 429 else 500) :
    Follows fw settings body (.ok decision) response where
  denied_iff := by
    rw [hstatus]
    by_cases hwait : decision.retryAfter.isFinite = true <;> simp [hwait, hdenied]
  refused_iff := by
    rw [hstatus]
    split <;> simp [hdenied]
  calculated := by
    rintro _ ⟨⟩ hallowed
    exact absurd hallowed (Bool.eq_false_iff.mp hdenied)
  status_of_fails := by
    rintro (_ | ⟨_, hwait⟩ | ⟨hallowed⟩)
    · rw [hstatus, hwait]
      rfl
    · exact absurd hallowed (Bool.eq_false_iff.mp hdenied)
  fails_of_status := by
    intro h500
    rw [hstatus] at h500
    split at h500
    · cases h500
    · rename_i hwait
      exact Or.inl (.noWait hdenied (Bool.eq_false_iff.mpr hwait))

theorem follows_refused (hallowed : decision.allowed = true)
    (hbody : ∀ request, ¬ IsRequest fw settings body request)
    (hwritable : ¬ IsUnwritable fw settings body) (hstatus : response.status = 422) :
    Follows fw settings body (.ok decision) response where
  denied_iff := by simp [hstatus, hallowed]
  refused_iff := iff_of_true hstatus ⟨decision, rfl, hallowed, hbody, hwritable⟩
  calculated := fun _ _ _ request hrequest => absurd hrequest (hbody request)
  status_of_fails := by
    rintro (_ | ⟨hdenied⟩ | ⟨_, hunwritable⟩)
    · exact absurd hallowed (Bool.eq_false_iff.mp hdenied)
    · exact absurd hunwritable hwritable
  fails_of_status := by simp [hstatus]

theorem follows_unwritable (hallowed : decision.allowed = true)
    (hbody : ∀ request, ¬ IsRequest fw settings body request)
    (hunwritable : IsUnwritable fw settings body) (hstatus : response.status = 500) :
    Follows fw settings body (.ok decision) response where
  denied_iff := by simp [hstatus, hallowed]
  refused_iff := by simp [hstatus, hunwritable]
  calculated := fun _ _ _ request hrequest => absurd hrequest (hbody request)
  status_of_fails := fun _ => hstatus
  fails_of_status := fun _ => Or.inl (.unwritable hallowed hunwritable)

theorem follows_result (hallowed : decision.allowed = true)
    (hrequest : IsRequest fw settings body request)
    (hunique : ∀ other, IsRequest fw settings body other → other = request)
    (hwritable : ¬ IsUnwritable fw settings body) (hresult : IsResult decision request response) :
    Follows fw settings body (.ok decision) response where
  denied_iff := by simp [hresult.status_eq, hallowed]
  refused_iff := by
    refine iff_of_false (by simp [hresult.status_eq]) ?_
    rintro ⟨_, _, _, hnone, _⟩
    exact hnone request hrequest
  calculated := by
    rintro _ ⟨⟩ _ other hother _
    rwa [hunique other hother]
  status_of_fails := by
    rintro (_ | ⟨hdenied⟩ | ⟨_, hunwritable⟩)
    · exact absurd hallowed (Bool.eq_false_iff.mp hdenied)
    · exact absurd hunwritable hwritable
  fails_of_status := by simp [hresult.status_eq]

theorem follows_breakdown (hallowed : decision.allowed = true)
    (hrequest : IsRequest fw settings body request)
    (hunique : ∀ other, IsRequest fw settings body other → other = request)
    (hbreakdown : calculate request.expression = .breakdown) (hstatus : response.status = 500) :
    Follows fw settings body (.ok decision) response where
  denied_iff := by simp [hstatus, hallowed]
  refused_iff := by
    refine iff_of_false (by simp [hstatus]) ?_
    rintro ⟨_, _, _, hnone, _⟩
    exact hnone request hrequest
  calculated := by
    rintro _ _ _ other hother hcalculate
    rw [hunique other hother] at hcalculate
    exact absurd hbreakdown hcalculate
  status_of_fails := fun _ => hstatus
  fails_of_status := fun _ => Or.inr ⟨request, hrequest, hbreakdown⟩

/-- The response to a message that counts follows from the answer to its check. -/
theorem follows_deliver (hfw : fw.Lawful) (settings : Settings) (message : Message)
    (body : fw.Body) (answer : Except Limiter.Fault Limiter.Decision) :
    Follows fw settings body answer (fw.deliver message (response? fw settings body answer)) := by
  have hstatus := status_deliver hfw message (response? fw settings body answer)
  cases answer with
  | error fault => exact follows_error settings body fault hstatus
  | ok decision =>
    rw [response?] at hstatus ⊢
    by_cases hallowed : decision.allowed = true
    · rw [if_pos hallowed] at hstatus ⊢
      have haccepted := fun request =>
        @validate_eq_ok_iff_isRequest fw settings body request hfw
      cases hbody : fw.validate (Request.checkLength settings.maxExpressionLength) body with
      | error refusal? =>
        have hnone : ∀ request, ¬ IsRequest fw settings body request := by
          intro request hrequest
          rw [← haccepted, hbody] at hrequest
          cases hrequest
        rw [hbody] at hstatus
        cases refusal? with
        | none => exact follows_unwritable hallowed hnone hbody hstatus
        | some refusal =>
          refine follows_refused hallowed hnone ?_ ?_
          · rw [IsUnwritable, hbody]
            simp
          · exact hstatus.trans (hfw.status_invalid _ _ _ hbody)
      | ok request =>
        have hrequest : IsRequest fw settings body request := (haccepted request).mp hbody
        have hunique : ∀ other, IsRequest fw settings body other → other = request := by
          intro other hother
          rw [← haccepted, hbody] at hother
          exact (Except.ok.inj hother).symm
        rw [hbody] at hstatus
        by_cases hcalculate : calculate request.expression = .breakdown
        · rw [allowedResponse?, if_pos hcalculate] at hstatus ⊢
          exact follows_breakdown hallowed hrequest hunique hcalculate hstatus
        · rw [allowedResponse?, if_neg hcalculate]
          refine follows_result hallowed hrequest hunique ?_ (isResult_deliver hfw _ _ _)
          rw [IsUnwritable, hbody]
          simp
    · rw [if_neg hallowed] at hstatus ⊢
      rw [status_responseTo_rateLimit] at hstatus
      refine follows_denied settings body (Bool.eq_false_iff.mpr hallowed) (hstatus.trans ?_)
      split <;> rfl

/-- What becomes of a message that counts: the server remembers what its check leaves, and the
response follows from the answer. -/
theorem handle_of_isCounted (hfw : fw.Lawful) (h : isCounted fw message = true)
    (server : Server) :
    (server.handle fw message).2 =
        { server with entries := (checkOf server.settings server.entries message).2 } ∧
      ∃ body, fw.Reads message body ∧
        Follows fw server.settings body (checkOf server.settings server.entries message).1
          (server.handle fw message).1.response := by
  obtain ⟨body, hreads⟩ := isCounted_iff.mp h
  obtain ⟨hresponse, hentries⟩ :=
    @serve_of_reads fw server.settings message body hfw hreads ⟨server.entries, []⟩
  refine ⟨congrArg (Server.mk server.settings) hentries, body, hreads, ?_⟩
  rw [show (server.handle fw message).1.response = _ from hresponse]
  exact follows_deliver hfw _ _ _ _

/-! ## Other messages -/

/-- Whether a message is for calculation, whatever its body. -/
def IsCalculation (message : Message) : Prop :=
  message.method = Endpoint.calculation.method ∧ message.path = Endpoint.calculation.path

/-- The messages for calculation count if their body can be read, and no other ones count. Whether
a line end behind the path matters is left open. -/
theorem isCounted_iff_isCalculation (hfw : fw.Lawful)
    (hpath : message.path ≠ Endpoint.calculation.path ++ "\n") :
    isCounted fw message = true ↔ IsCalculation message ∧ ∃ body, fw.read message = .ok body := by
  rw [isCounted_iff]
  constructor
  · rintro ⟨body, hreads⟩
    obtain ⟨hmethod, hended⟩ := hfw.path_of_route _ _ hreads.route_eq
    exact ⟨⟨hmethod, hended.resolve_right hpath⟩, body, hreads.read_eq⟩
  · rintro ⟨hcalculation, body, hread⟩
    exact ⟨body, hfw.route_of_path _ .calculation hcalculation.1 hcalculation.2, hread⟩

/-- Whether a response says neither that there were too many requests nor that the service
failed. -/
def IsOrdinary (response : Response) : Prop :=
  response.status ≠ 429 ∧ response.status ≠ 500

theorem isOrdinary_of_mem {statuses : List Nat} (h : response.status ∈ statuses)
    (hdenied : 429 ∉ statuses) (hfailed : 500 ∉ statuses) : IsOrdinary response :=
  ⟨ne_of_mem_of_not_mem h hdenied, ne_of_mem_of_not_mem h hfailed⟩

/-- What a message that does not count is answered. It is never told that there were too many
requests or that the service failed, and if it is for calculation, its body cannot be read. -/
structure Passes (fw : Framework) (message : Message) (response : Response) : Prop where
  isOrdinary : IsOrdinary response
  unreadable : IsCalculation message →
    ∃ refusal, fw.read message = .error refusal ∧
      response = fw.deliver message (some refusal)

theorem handle_of_serve {server : Server} {memory : Memory}
    (h : fw.serve (application server.settings) message ⟨server.entries, []⟩ =
      (response, memory)) :
    server.handle fw message =
      (⟨response, memory.log⟩, { server with entries := memory.entries }) := by
  rw [Server.handle, h]

/-- What becomes of a message that does not count: the server stays as it is. -/
theorem handle_of_not_isCounted (hfw : fw.Lawful) (h : isCounted fw message = false)
    (server : Server) :
    (server.handle fw message).2 = server ∧
      Passes fw message (server.handle fw message).1.response := by
  have hcalculation : IsCalculation message → fw.route message = .to .calculation :=
    fun hpath => hfw.route_of_path message .calculation hpath.1 hpath.2
  match hroute : fw.route message with
  | .own response =>
    rw [handle_of_serve (hfw.serve_own _ _ _ _ hroute)]
    refine ⟨rfl, isOrdinary_of_mem (hfw.status_own _ _ hroute) (by decide) (by decide),
      fun hpath => ?_⟩
    cases hroute.symm.trans (hcalculation hpath)
  | .to .health =>
    rw [handle_of_serve (hfw.serve_health _ _ _ hroute)]
    refine ⟨rfl, ?_, fun hpath => ?_⟩
    · simp [IsOrdinary, hfw.status_deliver]
    · cases hroute.symm.trans (hcalculation hpath)
  | .to .calculation =>
    cases hread : fw.read message with
    | ok body =>
      exact absurd (isCounted_iff.mpr ⟨body, hroute, hread⟩) (Bool.eq_false_iff.mp h)
    | error refusal =>
      rw [handle_of_serve (hfw.serve_unreadable _ _ _ _ hroute hread)]
      have hstatus := hfw.status_unreadable _ _ hread
      rw [← hfw.status_deliver message refusal] at hstatus
      exact ⟨rfl, isOrdinary_of_mem hstatus (by decide) (by decide), fun _ => ⟨refusal, hread, rfl⟩⟩

end Service

end TapeMeasure
