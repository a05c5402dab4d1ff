import TapeMeasure.Service.Server

/-!
# Messages that count

Which messages count against the limit of their client, said without the server: those that lead to
calculation and whose body could be read.

* `isCounted`: whether a message counts.
* `countedChecks`: the checks that messages stand for, in order.
-/

namespace TapeMeasure

namespace Service

/-- Whether a message counts against the limit of its client. -/
def isCounted (fw : Framework) (message : Message) : Bool :=
  match fw.route message with
  | .to .calculation => (fw.read message).toBool
  | _ => false

/-- The checks that messages stand for, in order. -/
def countedChecks (fw : Framework) (settings : Settings) (messages : List Message) :
    List (Double × String) :=
  (messages.filter (isCounted fw)).map fun message =>
    (message.now, limiterKey (addressOf settings message))

@[simp] theorem countedChecks_nil (fw : Framework) (settings : Settings) :
    countedChecks fw settings [] = [] := rfl

theorem countedChecks_append (fw : Framework) (settings : Settings) (xs ys : List Message) :
    countedChecks fw settings (xs ++ ys) =
      countedChecks fw settings xs ++ countedChecks fw settings ys := by
  simp [countedChecks]

end Service

end TapeMeasure
