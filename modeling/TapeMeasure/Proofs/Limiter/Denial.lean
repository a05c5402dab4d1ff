import Mathlib.Data.List.Forall2
import TapeMeasure.Proofs.Except
import TapeMeasure.Proofs.Limiter.Eviction
import TapeMeasure.Proofs.Limiter.Window

/-!
# Denied requests leave no trace

A denied request does change the entries: the times of its key that have left the window are
forgotten.  They would not have counted at any later time, and the last time of the key still
counts, so neither what counts nor what is dropped is ever different.

* `AlikeTimes`, `Alike`: times and entries that cannot be told apart at the remaining times.
* `Alike.evict`, `Alike.check`: entries that are alike lose the same keys, give the same answer to a
  check, and stay alike.
* `alike_check_of_denied`: a denied request leaves entries that are like those before it.
* `isDenied_iff`: the answer to a denied request says so.
* `run_eraseDenied`: a run without one of its denied requests.
-/

namespace TapeMeasure

namespace Limiter

variable {config : Config} {entries entries' : Entries} {key : String} {window now : Double}
  {later : List Double} {recent recent' : List Double} {requests : List (Double × String)}

/-! ## Times that are alike -/

/-- The last times are the same, and so are the times that count at each of the remaining times. -/
structure AlikeTimes (window : Double) (later recent recent' : List Double) : Prop where
  last : recent.getLast? = recent'.getLast?
  live : ∀ time ∈ later,
    recent.filter (isLive window time) = recent'.filter (isLive window time)

theorem AlikeTimes.refl (window : Double) (later recent : List Double) :
    AlikeTimes window later recent recent :=
  ⟨rfl, fun _ _ => rfl⟩

/-- When the last times are the same, the times have left the window or not. -/
theorem AlikeTimes.isExpired_eq (h : AlikeTimes window later recent recent') (now : Double) :
    isExpired window now recent = isExpired window now recent' := by
  rw [isExpired, isExpired, h.last]

/-! ## Entries that are alike -/

/-- The same keys are in the same order, with times that are alike. -/
def Alike (window : Double) (later : List Double) : Entries → Entries → Prop :=
  List.Forall₂ fun entry entry' => entry.1 = entry'.1 ∧ AlikeTimes window later entry.2 entry'.2

theorem Alike.refl (window : Double) (later : List Double) (entries : Entries) :
    Alike window later entries entries :=
  List.forall₂_same.mpr fun entry _ => ⟨rfl, AlikeTimes.refl window later entry.2⟩

theorem Alike.keys_eq (h : Alike window later entries entries') :
    entries.map Prod.fst = entries'.map Prod.fst := by
  induction h with
  | nil => rfl
  | cons hentry _ ih => rw [List.map_cons, List.map_cons, hentry.1, ih]

theorem Alike.of_cons {time : Double} (h : Alike window (time :: later) entries entries') :
    Alike window later entries entries' :=
  h.imp fun _ _ hentry => ⟨hentry.1, hentry.2.last, fun time htime =>
    hentry.2.live time (List.mem_cons_of_mem _ htime)⟩

theorem Alike.times (h : Alike window later entries entries') (key : String) :
    AlikeTimes window later (times entries key) (times entries' key) := by
  induction h with
  | nil => exact AlikeTimes.refl window later []
  | cons hentry _ ih =>
    rw [times_cons, times_cons, ← hentry.1]
    split
    · exact hentry.2
    · exact ih

theorem Alike.recentTimes_eq (h : Alike config.window later entries entries') (hnow : now ∈ later)
    (key : String) : recentTimes config entries now key = recentTimes config entries' now key :=
  (h.times key).live now hnow

/-! ## What a check does to entries that are alike -/

theorem Alike.put (h : Alike window later entries entries') (key : String)
    (recent : List Double) :
    Alike window later (put key recent entries) (put key recent entries') := by
  induction h with
  | nil => exact Alike.refl window later _
  | cons hentry hrest ih =>
    rw [Limiter.put, Limiter.put, ← hentry.1]
    split
    · exact List.Forall₂.cons ⟨rfl, AlikeTimes.refl window later recent⟩ hrest
    · exact List.Forall₂.cons hentry ih

theorem Alike.remove_append (h : Alike window later entries entries') (key : String)
    (recent : List Double) :
    Alike window later (remove key entries ++ [(key, recent)])
      (remove key entries' ++ [(key, recent)]) := by
  refine List.rel_append ?_ (Alike.refl window later _)
  induction h with
  | nil => exact Alike.refl window later _
  | cons hentry _ ih =>
    rw [remove, remove] at ih ⊢
    rw [List.filter_cons, List.filter_cons, ← hentry.1]
    split
    · exact List.Forall₂.cons hentry ih
    · exact ih

theorem Alike.evictFront (h : Alike config.window later entries entries') (now : Double) :
    Alike config.window later (evictFront config now entries)
      (Limiter.evictFront config now entries') := by
  induction h with
  | nil => exact Alike.refl _ later _
  | cons hentry hrest ih =>
    have hboth : Alike config.window later (_ :: _) (_ :: _) := List.Forall₂.cons hentry hrest
    rw [Limiter.evictFront, Limiter.evictFront, ← hentry.2.isExpired_eq now, ← hboth.length_eq]
    split
    · exact hboth
    · exact ih

/-- The same keys are dropped. -/
theorem Alike.evict (h : Alike config.window later entries entries') (now : Double) :
    Alike config.window later (evict config now entries) (Limiter.evict config now entries') := by
  rw [Limiter.evict, Limiter.evict, ← h.length_eq]
  split
  · exact h
  · exact h.evictFront now

/-- A check has the same answer, and leaves entries that are alike. -/
theorem Alike.check (h : Alike config.window (now :: later) entries entries') (key : String) :
    (check config entries now key).1 = (Limiter.check config entries' now key).1 ∧
      Alike config.window later (Limiter.check config entries now key).2
        (Limiter.check config entries' now key).2 := by
  have hrecent := h.recentTimes_eq List.mem_cons_self key
  refine ⟨by rw [check_fst, check_fst, hrecent], ?_⟩
  simp only [Limiter.check, ← hrecent]
  split
  · exact h.of_cons.put key _
  · exact (h.of_cons.remove_append key _).evict now

/-- A run has the same answers, and leaves the same keys. -/
theorem Alike.run (h : Alike config.window (requests.map Prod.fst) entries entries') :
    (run config entries requests).1 = (Limiter.run config entries' requests).1 ∧
      (Limiter.run config entries requests).2.map Prod.fst =
        (Limiter.run config entries' requests).2.map Prod.fst := by
  induction requests generalizing entries entries' with
  | nil => exact ⟨rfl, h.keys_eq⟩
  | cons request requests ih =>
    obtain ⟨hanswer, hafter⟩ := h.check request.2
    obtain ⟨hanswers, hkeys⟩ := ih hafter
    rw [run_cons, run_cons]
    exact ⟨List.cons_eq_cons.mpr ⟨hanswer, hanswers⟩, hkeys⟩

/-! ## Denied requests -/

/-- Whether a request is denied: as many requests of its key count as may be allowed. -/
def IsDenied (config : Config) (entries : Entries) (now : Double) (key : String) : Prop :=
  config.maxRequests ≤ (recentTimes config entries now key).length

theorem allowed_of_allow {decision : Decision} (h : allow config recent = .ok decision) :
    decision.allowed = true := by
  cases recent with
  | nil => cases h
  | cons oldest recent =>
    obtain ⟨reset, -, rfl⟩ := map_eq_ok_iff.mp h
    rfl

/-- The answer, if there is one, tells whether a request is denied. -/
theorem isDenied_iff {decision : Decision}
    (hanswer : (check config entries now key).1 = .ok decision) :
    IsDenied config entries now key ↔ decision.allowed = false := by
  rw [check_fst, verdict] at hanswer
  split at hanswer
  · rename_i hdenied
    exact iff_of_true hdenied (allowed_of_deny hanswer)
  · rename_i hallowed
    refine iff_of_false hallowed fun hdenied => ?_
    rw [allowed_of_allow hanswer] at hdenied
    cases hdenied

/-- A denied request leaves entries that are like those before it. -/
theorem alike_check_of_denied (hlimit : 1 ≤ config.maxRequests) (horder : InOrder entries)
    (hlater : ∀ time ∈ later, Double.le now time = true)
    (hdenied : IsDenied config entries now key) :
    Alike config.window later (check config entries now key).2 entries := by
  rw [IsDenied] at hdenied
  rcases check_snd_cases hlimit entries now key with
    ⟨before, after, hentries, -, hcheck⟩ | ⟨hallowed, -⟩
  · have hsorted : (times entries key).Pairwise fun a b => Double.le a b = true :=
      forall_times List.Pairwise.nil horder.times key
    have hcounted : recentTimes config entries now key ≠ [] :=
      List.ne_nil_of_length_pos (by omega)
    have htimes : AlikeTimes config.window later (recentTimes config entries now key)
        (times entries key) :=
      ⟨getLast?_filter_isLive hsorted hcounted, fun time htime =>
        filter_isLive_filter (hlater time htime) _⟩
    have halike : Alike config.window later
        (before ++ (key, recentTimes config entries now key) :: after)
        (before ++ (key, times entries key) :: after) :=
      List.rel_append (Alike.refl _ _ before)
        (List.Forall₂.cons ⟨rfl, htimes⟩ (Alike.refl _ _ after))
    rw [hcheck]
    rwa [← hentries] at halike
  · omega

/-! ## Runs without a denied request -/

theorem run_append (config : Config) (entries : Entries) (xs ys : List (Double × String)) :
    run config entries (xs ++ ys) =
      ((run config entries xs).1 ++ (run config (run config entries xs).2 ys).1,
        (run config (run config entries xs).2 ys).2) := by
  induction xs generalizing entries with
  | nil => rfl
  | cons request xs ih => rw [List.cons_append, run_cons, run_cons, ih, List.cons_append]

theorem length_run (config : Config) (entries : Entries) (requests : List (Double × String)) :
    (run config entries requests).1.length = requests.length := by
  induction requests generalizing entries with
  | nil => rfl
  | cons request requests ih => rw [run_cons, List.length_cons, List.length_cons, ih]

/-- **Denied requests leave no trace.**  Without a denied request, a run gives the same answers to
all other requests, and the same keys are tracked after each of them. -/
theorem run_eraseDenied {xs ys : List (Double × String)} (hlimit : 1 ≤ config.maxRequests)
    (hordered : Ordered (xs ++ (now, key) :: ys))
    (hdenied : IsDenied config (run config [] xs).2 now key) :
    (run config [] (xs ++ (now, key) :: ys)).1.eraseIdx xs.length =
        (run config [] (xs ++ ys)).1 ∧
      ∀ done, done <+: ys →
        (run config [] (xs ++ (now, key) :: done)).2.map Prod.fst =
          (run config [] (xs ++ done)).2.map Prod.fst := by
  rw [Ordered, List.pairwise_append, List.pairwise_cons] at hordered
  obtain ⟨hbefore, ⟨hlater, -⟩, -⟩ := hordered
  have horder : InOrder (run config [] xs).2 :=
    inOrder_nil.run hlimit hbefore fun _ _ => allTimes_nil _
  have halike : ∀ done, done <+: ys → Alike config.window (done.map Prod.fst)
      (check config (run config [] xs).2 now key).2 (run config [] xs).2 := fun done hdone => by
    refine alike_check_of_denied hlimit horder (fun time htime => ?_) hdenied
    obtain ⟨request, hmem, rfl⟩ := List.mem_map.mp htime
    exact hlater request (hdone.mem hmem)
  refine ⟨?_, fun done hdone => ?_⟩
  · rw [run_append, run_append, run_cons, ← length_run config [] xs,
      List.eraseIdx_append_of_length_le le_rfl, Nat.sub_self, List.eraseIdx_cons_zero,
      (halike ys (List.prefix_refl ys)).run.1]
  · rw [run_append, run_append, run_cons]
    exact (halike done hdone).run.2

/-- One request a minute, and room for two keys. -/
def onceForTwo : Config :=
  ⟨1, .ofInt 60, 2⟩

/-- A client that comes back while it is blocked is dropped all the same for a third one, and is
told the same about its next request. -/
theorem run_eraseDenied_hammering :
    (check onceForTwo (run onceForTwo [] [(.ofInt 0, "a")]).2 (.ofInt 30) "a").1 =
        .ok ⟨false, 1, 0, 60, .ofInt 30⟩ ∧
      (run onceForTwo [] [(.ofInt 0, "a"), (.ofInt 30, "a"), (.ofInt 40, "b"),
          (.ofInt 50, "c")]).2.map Prod.fst = ["b", "c"] ∧
      (run onceForTwo [] [(.ofInt 0, "a"), (.ofInt 30, "a"), (.ofInt 40, "b"), (.ofInt 50, "c"),
          (.ofInt 55, "b")]).1.eraseIdx 1 =
        (run onceForTwo [] [(.ofInt 0, "a"), (.ofInt 40, "b"), (.ofInt 50, "c"),
          (.ofInt 55, "b")]).1 := by
  have hanswer : (check onceForTwo (run onceForTwo [] [(.ofInt 0, "a")]).2 (.ofInt 30) "a").1 =
      .ok ⟨false, 1, 0, 60, .ofInt 30⟩ := by decide +kernel
  have herase := @run_eraseDenied onceForTwo "a" (.ofInt 30) [(.ofInt 0, "a")]
    [(.ofInt 40, "b"), (.ofInt 50, "c"), (.ofInt 55, "b")] (by decide)
    (by unfold Ordered; decide +kernel) ((isDenied_iff hanswer).mpr rfl)
  have hkeys := herase.2 [(.ofInt 40, "b"), (.ofInt 50, "c")] (by decide +kernel)
  exact ⟨hanswer, hkeys.trans (by decide +kernel), herase.1⟩

end Limiter

end TapeMeasure
