import Mathlib.Data.List.Infix
import TapeMeasure.Proofs.Limiter.Wait
import TapeMeasure.Service.Server

/-!
# What a blocked client is told

A client that made too many requests is told how many whole seconds to wait.  That is more than the
time for which it stays blocked, and at most a second more.

* `Continues`: what may happen between a denied request of a client and its next one.
* `exists_retryAfter_header`: the seconds that a response tells.
* `exists_oldest_of_denied`, `Continues.exists_next`: the wait, and the next request.
* `retryAfter_isTight`: before the wait is over the next request is denied, after it it is allowed.
-/

namespace TapeMeasure

namespace Service

open Limiter

variable {config : Config} {now time : Double} {key : String}
  {before between : List (Double × String)} {decision : Decision}

/-- A run goes on behind a request with others and then one more of the same key, on a clock that
does not go back and at which nothing is rounded. -/
structure Continues (window : Double) (before : List (Double × String)) (now : Double)
    (key : String) (between : List (Double × String)) (time : Double) : Prop where
  ordered : Ordered (before ++ (now, key) :: (between ++ [(time, key)]))
  exact : IsExactClock window
    ((before ++ (now, key) :: (between ++ [(time, key)])).map Prod.fst)

section Continues

variable {window : Double} (h : Continues window before now key between time)

include h

/-- All times of the run have a place on its clock. -/
theorem Continues.isFinite_add (request : Double × String)
    (hmem : request ∈ before ++ (now, key) :: (between ++ [(time, key)])) :
    (request.1.add window).isFinite = true :=
  (h.exact.sum _ (List.mem_map_of_mem hmem)).isFinite

theorem Continues.now_le : Double.le now time = true :=
  (List.pairwise_cons.mp (List.pairwise_append.mp h.ordered).2.1).1 (time, key)
    (List.mem_append_right _ List.mem_cons_self)

theorem Continues.between_le {request : Double × String} (hmem : request ∈ between) :
    Double.le request.1 time = true := by
  have hbehind := (List.pairwise_cons.mp (List.pairwise_append.mp h.ordered).2.1).2
  exact (List.pairwise_append.mp hbehind).2.2 request hmem (time, key) List.mem_cons_self

/-- An earlier request counts until as much time has passed as its window had left. -/
theorem Continues.isLive_iff {oldest : Double} {wait : Rat} (hmade : oldest ∈ before.map Prod.fst)
    (hle : Double.le oldest now = true)
    (hwait : wait = oldest.toRat + window.toRat - now.toRat) :
    isLive window time oldest = true ↔ time.toRat < now.toRat + wait := by
  have hclock : oldest ∈ (before ++ (now, key) :: (between ++ [(time, key)])).map Prod.fst := by
    rw [List.map_append]
    exact List.mem_append_left _ hmade
  rw [h.exact.isLive_iff hclock (by simp) (Double.le_trans hle h.now_le), hwait, add_sub_cancel]

end Continues

/-- The response to a denied request tells the whole seconds behind the wait. -/
theorem exists_retryAfter_header {retryAfter : Double} (hfinite : retryAfter.isFinite = true)
    (hpos : 0 < retryAfter.toRat) (limit : Int) :
    ∃ seconds : Int,
      responseTo (.rateLimit limit retryAfter) =
        .ok (report 429 [("retry-after", Text.integerText seconds)] (.rateLimit limit retryAfter)) ∧
      retryAfter.toRat < seconds ∧ (seconds : Rat) ≤ retryAfter.toRat + 1 := by
  obtain ⟨whole, hwhole, hle, hlt⟩ := Double.exists_truncate_of_nonneg hfinite hpos.le
  refine ⟨whole + 1, by rw [responseTo, hwhole]; rfl, ?_, ?_⟩
  · rwa [Int.cast_add, Int.cast_one]
  · rw [Int.cast_add, Int.cast_one]
    exact add_le_add_left hle 1

/-- A denied request is told to wait until the oldest request of its key leaves the window. -/
theorem exists_oldest_of_denied (hlimit : 1 ≤ config.maxRequests)
    (hordered : Ordered (before ++ [(now, key)]))
    (hexact : IsExactClock config.window ((before ++ [(now, key)]).map Prod.fst))
    (hanswer : (check config (run config [] before).2 now key).1 = .ok decision)
    (hdenied : decision.allowed = false) :
    ∃ oldest others,
      Blocked config (check config (run config [] before).2 now key).2 key oldest others ∧
      oldest ∈ before.map Prod.fst ∧ Double.le oldest now = true ∧
      decision.retryAfter.isFinite = true ∧
      decision.retryAfter.toRat = oldest.toRat + config.window.toRat - now.toRat ∧
      0 < decision.retryAfter.toRat ∧ decision.retryAfter.toRat ≤ config.window.toRat := by
  rw [Ordered, List.pairwise_append] at hordered
  have hfits : Fits config (run config [] before).2 := (fits_nil config).run hlimit before
  have horder : InOrder (run config [] before).2 :=
    inOrder_nil.run hlimit hordered.1 fun _ _ => allTimes_nil _
  have hpast : AllTimes (fun made => Double.le made now = true ∧ made ∈ before.map Prod.fst)
      (run config [] before).2 :=
    (allTimes_nil _).run hlimit fun request hmem =>
      ⟨hordered.2.2 request hmem _ List.mem_cons_self, List.mem_map_of_mem hmem⟩
  obtain ⟨oldest, others, hblocked, hcounted, hretry⟩ :=
    exists_blocked_of_denied hlimit hfits horder hanswer hdenied
  obtain ⟨hle, hmade⟩ := hpast.recentTimes now key oldest hcounted
  have hlive : isLive config.window now oldest = true := (List.mem_filter.mp hcounted).2
  have hbefore : oldest ∈ (before ++ [(now, key)]).map Prod.fst := by
    rw [List.map_append]
    exact List.mem_append_left _ hmade
  have hnow : now ∈ (before ++ [(now, key)]).map Prod.fst := by simp
  obtain ⟨hfinite, hwait⟩ := hexact.toRat_retryAfter hbefore hnow hle hlive
  rw [← hretry] at hfinite hwait
  refine ⟨oldest, others, hblocked, hmade, hle, hfinite, hwait, ?_, ?_⟩
  · rw [hwait, sub_pos]
    exact (hexact.isLive_iff hbefore hnow hle).mp hlive
  · rw [hwait, sub_le_iff_le_add, add_comm]
    have hpassed := (Double.le_iff_toRat (hexact.isFinite hbefore) (hexact.isFinite hnow)).mp hle
    exact add_le_add_right hpassed _

/-- Until the wait is over, the next request is denied unless the key was dropped; from then on, it
is allowed unless another one has been. -/
theorem Continues.exists_next {oldest : Double} {others : List Double} {wait : Rat}
    (h : Continues config.window before now key between time) (hlimit : 1 ≤ config.maxRequests)
    (hblocked : Blocked config (check config (run config [] before).2 now key).2 key oldest others)
    (hmade : oldest ∈ before.map Prod.fst) (hle : Double.le oldest now = true)
    (hwait : wait = oldest.toRat + config.window.toRat - now.toRat) :
    let entries := (check config (run config [] before).2 now key).2
    ∃ next, (check config (run config entries between).2 time key).1 = .ok next ∧
      (time.toRat < now.toRat + wait →
        (∀ done, done <+: between → key ∈ (run config entries done).2.map Prod.fst) →
        next.allowed = false) ∧
      (now.toRat + wait ≤ time.toRat →
        (∀ answer ∈ answersFor key between (run config entries between).1,
          isAllowed answer = false) →
        next.allowed = true) := by
  intro entries
  have hentries : AllTimes (fun made => (made.add config.window).isFinite = true) entries :=
    ((allTimes_nil _).run hlimit fun request hmem =>
      h.isFinite_add _ (List.mem_append_left _ hmem)).check hlimit
        (h.isFinite_add (now, key) (by simp)) key
  obtain ⟨next, hnext, hblocks, hfrees⟩ := hblocked.exists_next hlimit hentries
    (fun request hmem => h.isFinite_add _ (by simp [hmem])) (h.isFinite_add (time, key) (by simp))
    fun request hmem => h.between_le hmem
  have hcounts := h.isLive_iff hmade hle hwait
  refine ⟨next, hnext, fun hearly => hblocks (hcounts.mpr hearly), fun hafter => hfrees ?_⟩
  rw [← Bool.not_eq_true, hcounts, not_lt]
  exact hafter

/-- **The wait is enough and not too long.**  A denied request is told to wait for a time that is
positive and at most the window, and the header of its response tells the whole seconds behind it.
Until the wait is over, the next request of the key is denied unless the key was dropped; from then
on, it is allowed unless another one of the key has been. -/
theorem retryAfter_isTight (hlimit : 1 ≤ config.maxRequests)
    (hordered : Ordered (before ++ [(now, key)]))
    (hexact : IsExactClock config.window ((before ++ [(now, key)]).map Prod.fst))
    (hanswer : (check config (run config [] before).2 now key).1 = .ok decision)
    (hdenied : decision.allowed = false) :
    let entries := (check config (run config [] before).2 now key).2
    let wait := decision.retryAfter.toRat
    0 < wait ∧ wait ≤ config.window.toRat ∧
    ∃ seconds : Int,
      responseTo (.rateLimit decision.limit decision.retryAfter) =
        .ok (report 429 [("retry-after", Text.integerText seconds)]
          (.rateLimit decision.limit decision.retryAfter)) ∧
      wait < seconds ∧ (seconds : Rat) ≤ wait + 1 ∧
      ∀ between time, Continues config.window before now key between time →
        let next := (check config (run config entries between).2 time key).1
        (time.toRat < now.toRat + wait →
          (∀ done, done <+: between → key ∈ (run config entries done).2.map Prod.fst) →
          ∃ decision, next = .ok decision ∧ decision.allowed = false) ∧
        ((∀ answer ∈ answersFor key between (run config entries between).1,
            isAllowed answer = false) →
          (now.toRat + wait ≤ time.toRat →
            ∃ decision, next = .ok decision ∧ decision.allowed = true) ∧
          (now.toRat + seconds ≤ time.toRat →
            ∃ decision, next = .ok decision ∧ decision.allowed = true)) := by
  intro entries wait
  obtain ⟨oldest, others, hblocked, hmade, hle, hfinite, hwait, hpos, hmost⟩ :=
    exists_oldest_of_denied hlimit hordered hexact hanswer hdenied
  obtain ⟨seconds, hheader, hmore, hclose⟩ := exists_retryAfter_header hfinite hpos decision.limit
  refine ⟨hpos, hmost, seconds, hheader, hmore, hclose, fun between time hcontinues => ?_⟩
  obtain ⟨later, hnext, hblocks, hfrees⟩ :=
    hcontinues.exists_next hlimit hblocked hmade hle hwait
  refine ⟨fun hearly hkept => ⟨later, hnext, hblocks hearly hkept⟩,
    fun hnone => ⟨fun hafter => ⟨later, hnext, hfrees hafter hnone⟩, fun hafter => ?_⟩⟩
  exact ⟨later, hnext, hfrees ((add_le_add_right hmore.le _).trans hafter) hnone⟩

/-- Two requests a minute. -/
def twiceAMinute : Config :=
  ⟨2, .ofInt 60, 10⟩

/-- The entries after a client was denied half a minute after its first request. -/
def blockedClient : Entries :=
  (check twiceAMinute (run twiceAMinute [] [(.ofInt 0, "a"), (.ofInt 20, "a")]).2 (.ofInt 30) "a").2

/-- A client that is denied after half a minute is told to wait for 31 seconds, since its first
request counts for 30 more: it is denied a second before that, and then allowed, whatever another
client or itself has asked for in between. -/
theorem retryAfter_isTight_thirtySeconds :
    (check twiceAMinute (run twiceAMinute [] [(.ofInt 0, "a"), (.ofInt 20, "a")]).2 (.ofInt 30)
        "a").1 = .ok ⟨false, 2, 0, 60, .ofInt 30⟩ ∧
      (∃ seconds : Int,
        responseTo (.rateLimit 2 (.ofInt 30)) =
          .ok (report 429 [("retry-after", Text.integerText seconds)] (.rateLimit 2 (.ofInt 30))) ∧
        30 < (seconds : Rat) ∧ (seconds : Rat) ≤ 30 + 1) ∧
      (∃ decision, (check twiceAMinute (run twiceAMinute blockedClient [(.ofInt 40, "b"),
        (.ofInt 50, "a")]).2 (.ofInt 59) "a").1 = .ok decision ∧ decision.allowed = false) ∧
      ∃ decision, (check twiceAMinute (run twiceAMinute blockedClient [(.ofInt 40, "b"),
        (.ofInt 50, "a")]).2 (.ofInt 60) "a").1 = .ok decision ∧ decision.allowed = true := by
  have hanswer : (check twiceAMinute (run twiceAMinute [] [(.ofInt 0, "a"), (.ofInt 20, "a")]).2
      (.ofInt 30) "a").1 = .ok ⟨false, 2, 0, 60, .ofInt 30⟩ := by decide +kernel
  have hwindow : IsWhole twiceAMinute.window := ⟨60, by decide, by simp only [twiceAMinute]⟩
  have hexact : IsExactClock twiceAMinute.window (([(.ofInt 0, "a"), (.ofInt 20, "a")] ++
      [(.ofInt 30, "a")] : List (Double × String)).map Prod.fst) :=
    isExactClock_whole hwindow (by simp [isWhole_ofInt])
  obtain ⟨-, -, seconds, hheader, hmore, hclose, hnext⟩ :=
    @retryAfter_isTight twiceAMinute (.ofInt 30) "a" [(.ofInt 0, "a"), (.ofInt 20, "a")] _
      (by decide) (by unfold Ordered; decide +kernel) hexact hanswer rfl
  have hentries : (check twiceAMinute (run twiceAMinute [] [(.ofInt 0, "a"), (.ofInt 20, "a")]).2
      (.ofInt 30) "a").2 = blockedClient := rfl
  have hvalue {n : Int} (hn : n.natAbs < 2 ^ 52) : (Double.ofInt n).toRat = n :=
    Double.toRat_ofInt (by omega)
  simp only [hentries, @hvalue 30 (by decide)] at hheader hmore hclose hnext
  have hcontinues {n : Int} (hn : n.natAbs < 2 ^ 52) (hordered : Ordered ([(.ofInt 0, "a"),
      (.ofInt 20, "a")] ++ (.ofInt 30, "a") :: ([(.ofInt 40, "b"), (.ofInt 50, "a")] ++
        [(.ofInt n, "a")]))) :
      Continues twiceAMinute.window [(.ofInt 0, "a"), (.ofInt 20, "a")] (.ofInt 30) "a"
        [(.ofInt 40, "b"), (.ofInt 50, "a")] (.ofInt n) :=
    ⟨hordered, isExactClock_whole hwindow (by simp [isWhole_ofInt, isWhole_ofInt hn])⟩
  have hbefore := hnext _ _ (@hcontinues 59 (by decide) (by unfold Ordered; decide +kernel))
  have hafter := hnext _ _ (@hcontinues 60 (by decide) (by unfold Ordered; decide +kernel))
  refine ⟨hanswer, ⟨seconds, hheader, hmore, hclose⟩, ?_, ?_⟩
  · refine hbefore.1 ?_ ?_
    · rw [@hvalue 59 (by decide)]
      norm_num
    · intro done hdone
      rw [← List.mem_inits] at hdone
      revert done
      decide +kernel
  · refine (hafter.2 ?_).1 ?_
    · decide +kernel
    · rw [@hvalue 60 (by decide)]
      norm_num

end Service

end TapeMeasure
