import TapeMeasure.Limiter

/-!
# The ideal window

What the limiter is meant to answer, if it could remember every request for ever and every key.

* `Answered`: a request with its answer.
* `liveCount`: how many earlier requests of a key were allowed and still count.
* `ideal`: the answers of a limiter with a full memory.
-/

namespace TapeMeasure

namespace Limiter

/-- A request that was answered. -/
structure Answered where
  time : Double
  key : String
  allowed : Bool
  deriving DecidableEq, Repr

/-- How many earlier requests of a key were allowed and still count at a time. -/
def liveCount (window now : Double) (key : String) (earlier : List Answered) : Nat :=
  earlier.countP fun request =>
    request.allowed && request.key == key && isLive window now request.time

/-- Whether each request is allowed and how many remain, when all that was answered before is
remembered. -/
def ideal (limit : Int) (window : Double) :
    List Answered → List (Double × String) → List (Bool × Int)
  | _, [] => []
  | earlier, (now, key) :: requests =>
    let live := liveCount window now key earlier
    let allowed := decide ((live : Int) < limit)
    (allowed, if allowed then limit - 1 - live else 0) ::
      ideal limit window (⟨now, key, allowed⟩ :: earlier) requests

/-- The times of requests do not decrease. -/
def Ordered (requests : List (Double × String)) : Prop :=
  requests.Pairwise fun earlier later => Double.le earlier.1 later.1 = true

/-- A request of another key does not count. -/
theorem liveCount_cons_of_ne {window now : Double} {key : String} {request : Answered}
    (ne : request.key ≠ key) (earlier : List Answered) :
    liveCount window now key (request :: earlier) = liveCount window now key earlier := by
  simp [liveCount, ne]

/-- A request that was denied does not count. -/
theorem liveCount_cons_of_denied {window now : Double} {key : String} {request : Answered}
    (denied : request.allowed = false) (earlier : List Answered) :
    liveCount window now key (request :: earlier) = liveCount window now key earlier := by
  simp [liveCount, denied]

end Limiter

end TapeMeasure
