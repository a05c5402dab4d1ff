import TapeMeasure.Limiter.Window
import TapeMeasure.Proofs.Double.Order
import TapeMeasure.Proofs.Limiter.Entries

/-!
# The window of a history

The limiter forgets what no longer counts, and a limiter that remembers everything counts the same:
what counts at some time has counted at every earlier one, so a request that was forgotten is one
that would never count again.

* `allowedTimes`, `countedTimes`: the requests of a history that were allowed, and those of them
  that count.
* `filter_isLive_filter`: forgetting first changes nothing later.
* `Tracks`: at all remaining times the remembered requests and those of the history count alike.
* `Tracks.check`: a check keeps this.
* `Bounded`: no key has more requests that count than the limit; `Bounded.cons`.
-/

namespace TapeMeasure

namespace Limiter

variable {config : Config} {entries : Entries} {keys : List String} {key : String}
  {window now : Double} {earlier : List Answered}

/-! ## Requests that count -/

/-- What counts at a time has counted at every earlier one. -/
theorem isLive_of_le {later time : Double} (hle : Double.le now later = true)
    (h : isLive window later time = true) : isLive window now time = true :=
  Double.lt_sub_of_le hle h

/-- To forget what does not count changes nothing later. -/
theorem filter_isLive_filter {later : Double} (hle : Double.le now later = true)
    (times : List Double) :
    (times.filter (isLive window now)).filter (isLive window later) =
      times.filter (isLive window later) := by
  rw [List.filter_filter]
  refine List.filter_congr fun time _ => ?_
  cases h : isLive window later time with
  | false => exact Bool.false_and _
  | true => rw [isLive_of_le hle h, Bool.true_and]

/-- The times at which requests of a key were allowed, oldest first; the history has the newest
request first. -/
def allowedTimes (key : String) (earlier : List Answered) : List Double :=
  ((earlier.filter fun request => request.allowed && request.key == key).map Answered.time).reverse

@[simp] theorem allowedTimes_nil (key : String) : allowedTimes key [] = [] := rfl

theorem allowedTimes_cons (request : Answered) (earlier : List Answered) (key : String) :
    allowedTimes key (request :: earlier) =
      allowedTimes key earlier ++
        if request.allowed && request.key == key then [request.time] else [] := by
  rw [allowedTimes, allowedTimes, List.filter_cons]
  split
  · rw [List.map_cons, List.reverse_cons]
  · rw [List.append_nil]

/-- The times of the allowed requests of a key that count, oldest first. -/
def countedTimes (window now : Double) (key : String) (earlier : List Answered) : List Double :=
  (allowedTimes key earlier).filter (isLive window now)

theorem countedTimes_cons (window now : Double) (key : String) (request : Answered)
    (earlier : List Answered) :
    countedTimes window now key (request :: earlier) =
      countedTimes window now key earlier ++
        (if request.allowed && request.key == key then [request.time] else []).filter
          (isLive window now) := by
  rw [countedTimes, allowedTimes_cons, List.filter_append, countedTimes]

theorem length_countedTimes (window now : Double) (key : String) (earlier : List Answered) :
    (countedTimes window now key earlier).length = liveCount window now key earlier := by
  induction earlier with
  | nil => rfl
  | cons request earlier ih =>
    rw [countedTimes_cons, List.length_append, ih, liveCount, liveCount, List.countP_cons]
    congr 1
    by_cases hrequest : (request.allowed && request.key == key) = true
    · by_cases hlive : isLive window now request.time = true <;> simp [hrequest, hlive]
    · simp [hrequest]

/-- All that counts later is found in what counts now. -/
theorem filter_countedTimes {later : Double} (hle : Double.le now later = true) (key : String)
    (earlier : List Answered) :
    (countedTimes window now key earlier).filter (isLive window later) =
      countedTimes window later key earlier :=
  filter_isLive_filter hle _

/-! ## Remembered requests and the history -/

/-- The entries and a history have the same requests that count at each of the remaining times. -/
structure Tracks (config : Config) (keys : List String) (later : List Double)
    (earlier : List Answered) (entries : Entries) : Prop where
  within : Within keys entries
  live : ∀ key, ∀ time ∈ later,
    recentTimes config entries time key = countedTimes config.window time key earlier

theorem tracks_nil (config : Config) (keys : List String) (later : List Double) :
    Tracks config keys later [] [] :=
  ⟨within_nil keys, fun _ _ _ => rfl⟩

/-- A check keeps the entries and the history together, if the clock does not go back. -/
theorem Tracks.check {later : List Double} (h : Tracks config keys (now :: later) earlier entries)
    (hkey : key ∈ keys) (hroom : (keys.dedup.length : Int) ≤ config.maxKeys)
    (hlater : ∀ time ∈ later, Double.le now time = true) :
    Tracks config keys later
      (⟨now, key, decide ((liveCount config.window now key earlier : Int) < config.maxRequests)⟩ ::
        earlier)
      (Limiter.check config entries now key).2 := by
  refine ⟨h.within.check hkey hroom now, fun other time htime => ?_⟩
  have hnow := h.live key now List.mem_cons_self
  have hother := h.live other time (List.mem_cons_of_mem now htime)
  rw [recentTimes, times_check h.within hkey hroom, hnow, remembered, length_countedTimes,
    countedTimes_cons]
  by_cases heq : key = other
  · -- what the own key forgets now does not count later
    subst heq
    rw [if_pos rfl]
    by_cases hdenied : config.maxRequests ≤ (liveCount config.window now key earlier : Int)
    · rw [if_pos hdenied, filter_countedTimes (hlater time htime),
        decide_eq_false (not_lt.mpr hdenied), Bool.false_and, if_neg Bool.false_ne_true,
        List.filter_nil, List.append_nil]
    · rw [if_neg hdenied, List.filter_append, filter_countedTimes (hlater time htime),
        decide_eq_true (not_le.mp hdenied), Bool.true_and, if_pos (beq_self_eq_true key)]
  · rw [recentTimes] at hother
    rw [if_neg heq, hother, if_neg (by simp [heq]), List.filter_nil, List.append_nil]

/-! ## The limit -/

/-- What counts at a time was counted at every earlier one. -/
theorem liveCount_le_of_le {later : Double} (hle : Double.le now later = true) (key : String)
    (earlier : List Answered) :
    liveCount window later key earlier ≤ liveCount window now key earlier := by
  refine List.countP_mono_left fun request _ hcounts => ?_
  rw [Bool.and_eq_true] at hcounts ⊢
  exact ⟨hcounts.1, isLive_of_le hle hcounts.2⟩

/-- No key has more requests that count than the limit, at any time that is not before them. -/
def Bounded (limit : Int) (window : Double) (earlier : List Answered) : Prop :=
  ∀ now key, (∀ request ∈ earlier, Double.le request.time now = true) →
    (liveCount window now key earlier : Int) ≤ limit

theorem bounded_nil {limit : Int} (hlimit : 1 ≤ limit) (window : Double) :
    Bounded limit window [] := fun _ _ _ =>
  Int.le_trans Int.one_nonneg hlimit

/-- The order of the requests does not matter. -/
theorem Bounded.perm {limit : Int} {other : List Answered} (h : Bounded limit window earlier)
    (hperm : earlier.Perm other) : Bounded limit window other := by
  intro now key hother
  have hcount : liveCount window now key earlier = liveCount window now key other :=
    hperm.countP_eq _
  rw [← hcount]
  exact h now key fun request hmem => hother request (hperm.mem_iff.mp hmem)

/-- The limit is kept by a request that is allowed only while fewer count. -/
theorem Bounded.cons {limit : Int} {request : Answered} (h : Bounded limit window earlier)
    (hallowed : request.allowed = true →
      (liveCount window request.time request.key earlier : Int) < limit) :
    Bounded limit window (request :: earlier) := by
  intro later key hlater
  have hearlier := h later key fun other hother => hlater other (List.mem_cons_of_mem _ hother)
  by_cases hkey : request.key = key
  · cases hrequest : request.allowed with
    | false => rwa [liveCount_cons_of_denied hrequest]
    | true =>
      have hcount : liveCount window later key (request :: earlier) ≤
          liveCount window later key earlier + 1 := by
        rw [liveCount, liveCount, List.countP_cons]
        split <;> omega
      have hmono : liveCount window later key earlier ≤
          liveCount window request.time key earlier :=
        liveCount_le_of_le (hlater request List.mem_cons_self) key earlier
      have hfew := hallowed hrequest
      rw [hkey] at hfew
      omega
  · rwa [liveCount_cons_of_ne hkey]

end Limiter

end TapeMeasure
