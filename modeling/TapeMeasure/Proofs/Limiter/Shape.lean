import TapeMeasure.Limiter.Window
import TapeMeasure.Proofs.Double.Order
import TapeMeasure.Proofs.Limiter.Entries

/-!
# The shape of the entries

What the entries of a limiter look like after any checks.  Whatever the clock does, there are no
more keys than allowed, and every key has a time and no more times than requests are allowed.  If
the clock does not go back, the times of every key are in order, and so are the keys by their last
times: an allowed request moves its key to the end, and a denied one leaves the last time where it
is.  The keys whose times have all left the window then come first, where they are looked for.

* `check_snd_cases`: what one check does to the entries.
* `AllTimes`: all times have a property; a check brings in its own time and no other.
* `Fits`, `InOrder`: the shape without and with a clock that does not go back; `Fits.check` and
  `InOrder.check` keep it, `Fits.run` and `InOrder.run` follow a run.
* `isExpired_iff`: the last time decides whether all have left the window.
* `filter_isExpired_prefix`: the keys that have left the window come first.
* `run_shape`: all of this for the runs of a new limiter.
-/

namespace TapeMeasure

namespace Limiter

variable {config : Config} {entries : Entries} {key : String} {window now : Double}
  {requests : List (Double × String)}

/-! ## One check -/

/-- The entry of a key with times is where other times are put. -/
theorem exists_eq_append_of_times (h : times entries key ≠ []) :
    ∃ before after, entries = before ++ (key, times entries key) :: after ∧
      ∀ recent, put key recent entries = before ++ (key, recent) :: after := by
  induction entries with
  | nil => exact absurd rfl h
  | cons entry entries ih =>
    rw [times_cons] at h ⊢
    by_cases hkey : entry.1 = key
    · refine ⟨[], entries, ?_, fun recent => ?_⟩
      · rw [if_pos hkey, ← hkey]
        rfl
      · rw [put, if_pos hkey]
        rfl
    · rw [if_neg hkey] at h ⊢
      obtain ⟨before, after, hentries, hput⟩ := ih h
      refine ⟨entry :: before, after, ?_, fun recent => ?_⟩
      · rw [List.cons_append, ← hentries]
      · rw [put, if_neg hkey, hput, List.cons_append]

theorem evict_suffix (config : Config) (now : Double) (entries : Entries) :
    evict config now entries <:+ entries := by
  rw [evict]
  split
  · exact List.suffix_refl _
  · exact evictFront_suffix config now entries

theorem length_evict_le (config : Config) (now : Double) (entries : Entries) :
    ((evict config now entries).length : Int) ≤ max config.maxKeys 0 := by
  rw [evict]
  split
  · rename_i hfits
    exact le_max_of_le_left hfits
  · exact length_evictFront_le config now entries

/-- A denied request leaves the entries as they are but for the times of its key that have left the
window.  An allowed one has the last entry, before the first ones may be dropped. -/
theorem check_snd_cases (hlimit : 1 ≤ config.maxRequests) (entries : Entries) (now : Double)
    (key : String) :
    (∃ before after, entries = before ++ (key, times entries key) :: after ∧
      config.maxRequests ≤ (recentTimes config entries now key).length ∧
      (check config entries now key).2 =
        before ++ (key, recentTimes config entries now key) :: after) ∨
    ((recentTimes config entries now key).length : Int) < config.maxRequests ∧
      (check config entries now key).2 = evict config now
        (remove key entries ++ [(key, recentTimes config entries now key ++ [now])]) := by
  simp only [check]
  split
  · rename_i hdenied
    left
    have htimes : times entries key ≠ [] := by
      intro hnil
      rw [recentTimes, hnil, List.filter_nil, List.length_nil] at hdenied
      omega
    obtain ⟨before, after, hentries, hput⟩ := exists_eq_append_of_times htimes
    exact ⟨before, after, hentries, hdenied, hput _⟩
  · rename_i hallowed
    exact Or.inr ⟨not_le.mp hallowed, rfl⟩

theorem recentTimes_sublist (config : Config) (entries : Entries) (now : Double) (key : String) :
    (recentTimes config entries now key).Sublist (times entries key) :=
  List.filter_sublist

theorem mem_of_times (h : times entries key ≠ []) : (key, times entries key) ∈ entries := by
  obtain ⟨before, after, hentries, -⟩ := exists_eq_append_of_times h
  have hmem : (key, times entries key) ∈ before ++ (key, times entries key) :: after :=
    List.mem_append_right _ List.mem_cons_self
  rwa [← hentries] at hmem

/-- What holds of the times of every entry and of no times holds of the times of every key. -/
theorem forall_times {P : List Double → Prop} (hnil : P []) (h : ∀ entry ∈ entries, P entry.2)
    (key : String) : P (times entries key) := by
  by_cases htimes : times entries key = []
  · rwa [htimes]
  · exact h _ (mem_of_times htimes)

/-- The entries after a check: an old one, or the one of the key with the old times that count and,
if the request is allowed, its own. -/
theorem mem_check (hlimit : 1 ≤ config.maxRequests) {entry : String × List Double}
    (h : entry ∈ (check config entries now key).2) :
    entry ∈ entries ∨
      entry = (key, remembered config now (recentTimes config entries now key)) := by
  rcases check_snd_cases hlimit entries now key with
    ⟨before, after, hentries, hdenied, hcheck⟩ | ⟨hallowed, hcheck⟩
  · rw [hcheck, List.mem_append, List.mem_cons] at h
    rw [remembered, if_pos hdenied]
    rcases h with hmem | heq | hmem
    · left
      rw [hentries]
      exact List.mem_append_left _ hmem
    · exact Or.inr heq
    · left
      rw [hentries]
      exact List.mem_append_right _ (List.mem_cons_of_mem _ hmem)
  · rw [hcheck] at h
    have hmem := (evict_suffix config now _).mem h
    rw [List.mem_append, List.mem_singleton] at hmem
    rw [remembered, if_neg (not_le.mpr hallowed)]
    exact hmem.imp_left List.mem_of_mem_filter

/-! ## Whatever the clock does -/

/-- There are no more keys than allowed and no key twice, and every key has a time and no more times
than requests are allowed. -/
structure Fits (config : Config) (entries : Entries) : Prop where
  nodup : (entries.map Prod.fst).Nodup
  length_le : (entries.length : Int) ≤ max config.maxKeys 0
  one_le_length : ∀ entry ∈ entries, 1 ≤ entry.2.length
  length_times_le : ∀ entry ∈ entries, (entry.2.length : Int) ≤ config.maxRequests

theorem fits_nil (config : Config) : Fits config [] where
  nodup := List.nodup_nil
  length_le := le_max_right _ _
  one_le_length _ hentry := absurd hentry List.not_mem_nil
  length_times_le _ hentry := absurd hentry List.not_mem_nil

theorem Fits.check (h : Fits config entries) (hlimit : 1 ≤ config.maxRequests) (now : Double)
    (key : String) : Fits config (Limiter.check config entries now key).2 := by
  have hcases := check_snd_cases hlimit entries now key
  have hrecent : ((recentTimes config entries now key).length : Int) ≤ config.maxRequests := by
    have hsub := (recentTimes_sublist config entries now key).length_le
    have hold : ((times entries key).length : Int) ≤ config.maxRequests :=
      forall_times (P := fun times => (times.length : Int) ≤ config.maxRequests)
        (Int.le_trans Int.one_nonneg hlimit) h.length_times_le key
    omega
  have hlength : 1 ≤ (remembered config now (recentTimes config entries now key)).length ∧
      ((remembered config now (recentTimes config entries now key)).length : Int) ≤
        config.maxRequests := by
    rw [remembered]
    split
    · omega
    · rw [List.length_append, List.length_singleton]
      omega
  refine ⟨?_, ?_, fun entry hentry => ?_, fun entry hentry => ?_⟩
  · rcases hcases with ⟨before, after, hentries, -, hcheck⟩ | ⟨-, hcheck⟩
    · have hkeys := h.nodup
      rw [hentries] at hkeys
      rw [hcheck]
      simpa using hkeys
    · rw [hcheck]
      exact ((evict_suffix config now _).sublist.map Prod.fst).nodup
        (nodup_keys_remove_append h.nodup _)
  · rcases hcases with ⟨before, after, hentries, -, hcheck⟩ | ⟨-, hcheck⟩
    · have hold := h.length_le
      rw [hentries] at hold
      rw [hcheck]
      simpa using hold
    · rw [hcheck]
      exact length_evict_le config now _
  · rcases mem_check hlimit hentry with hold | rfl
    · exact h.one_le_length entry hold
    · exact hlength.1
  · rcases mem_check hlimit hentry with hold | rfl
    · exact h.length_times_le entry hold
    · exact hlength.2

/-! ## What all times have in common -/

/-- All times in the entries have a property. -/
def AllTimes (P : Double → Prop) (entries : Entries) : Prop :=
  ∀ entry ∈ entries, ∀ time ∈ entry.2, P time

theorem allTimes_nil (P : Double → Prop) : AllTimes P [] := fun _ hentry =>
  absurd hentry List.not_mem_nil

variable {P : Double → Prop}

theorem AllTimes.times (h : AllTimes P entries) (key : String) :
    ∀ time ∈ times entries key, P time :=
  forall_times (P := fun times => ∀ time ∈ times, P time)
    (fun _ hmem => absurd hmem List.not_mem_nil) h key

theorem AllTimes.recentTimes (h : AllTimes P entries) (now : Double) (key : String) :
    ∀ time ∈ recentTimes config entries now key, P time := fun time htime =>
  h.times key time ((recentTimes_sublist config entries now key).mem htime)

/-- Only the time of the check comes in. -/
theorem AllTimes.check (h : AllTimes P entries) (hlimit : 1 ≤ config.maxRequests) (hnow : P now)
    (key : String) : AllTimes P (Limiter.check config entries now key).2 := by
  intro entry hentry time htime
  rcases mem_check hlimit hentry with hold | rfl
  · exact h entry hold time htime
  · simp only [remembered] at htime
    split at htime
    · exact h.recentTimes now key time htime
    · rcases List.mem_append.mp htime with hmem | hmem
      · exact h.recentTimes now key time hmem
      · rw [List.mem_singleton.mp hmem]
        exact hnow

/-! ## A clock that does not go back -/

/-- No time is later than a given one. -/
abbrev Past (now : Double) (entries : Entries) : Prop :=
  AllTimes (fun time => Double.le time now = true) entries

/-- The last times of the keys. -/
def lastTimes (entries : Entries) : List Double :=
  entries.filterMap fun entry => entry.2.getLast?

/-- The times of every key are in order, and the keys are in the order of their last times. -/
structure InOrder (entries : Entries) : Prop where
  times : ∀ entry ∈ entries, entry.2.Pairwise fun a b => Double.le a b = true
  keys : (lastTimes entries).Pairwise fun a b => Double.le a b = true

theorem inOrder_nil : InOrder [] where
  times _ hentry := absurd hentry List.not_mem_nil
  keys := List.Pairwise.nil

theorem lastTimes_append (entries entries' : Entries) :
    lastTimes (entries ++ entries') = lastTimes entries ++ lastTimes entries' :=
  List.filterMap_append

theorem lastTimes_cons (entry : String × List Double) (entries : Entries) :
    lastTimes (entry :: entries) = entry.2.getLast?.toList ++ lastTimes entries := by
  rw [lastTimes, List.filterMap_cons]
  cases entry.2.getLast? <;> rfl

theorem mem_of_mem_lastTimes {time : Double} (h : time ∈ lastTimes entries) :
    ∃ entry ∈ entries, time ∈ entry.2 := by
  obtain ⟨entry, hentry, hlast⟩ := List.mem_filterMap.mp h
  exact ⟨entry, hentry, List.mem_of_getLast? hlast⟩

/-- The last of ordered times counts if any of them does. -/
theorem getLast?_filter_isLive {times : List Double}
    (hsorted : times.Pairwise fun a b => Double.le a b = true)
    (hlive : times.filter (isLive window now) ≠ []) :
    (times.filter (isLive window now)).getLast? = times.getLast? := by
  rcases List.eq_nil_or_concat' times with rfl | ⟨earlier, last, rfl⟩
  · rfl
  · rw [List.pairwise_append] at hsorted
    have hlast : isLive window now last = true := by
      by_contra hdead
      refine hlive (List.filter_eq_nil_iff.mpr fun time htime hcounts => ?_)
      rcases List.mem_append.mp htime with hmem | hmem
      · exact hdead (Double.lt_sub_of_ge (hsorted.2.2 time hmem last List.mem_cons_self) hcounts)
      · rw [List.mem_singleton.mp hmem] at hcounts
        exact hdead hcounts
    rw [List.filter_append, List.filter_cons_of_pos hlast, List.filter_nil]
    simp

theorem InOrder.of_suffix {entries' : Entries} (h : InOrder entries)
    (hsuffix : entries' <:+ entries) : InOrder entries' where
  times entry hentry := h.times entry (hsuffix.mem hentry)
  keys := h.keys.sublist (hsuffix.sublist.filterMap _)

/-- The times that count, and the present one behind them. -/
theorem InOrder.pairwise_recentTimes (h : InOrder entries) (key : String) :
    (recentTimes config entries now key).Pairwise fun a b => Double.le a b = true :=
  (forall_times List.Pairwise.nil h.times key).sublist (recentTimes_sublist config entries now key)

/-- A key that is moved to the end with the present time keeps the order. -/
theorem InOrder.remove_append (h : InOrder entries) (hpast : Past now entries) (key : String) :
    InOrder (remove key entries ++ [(key, recentTimes config entries now key ++ [now])]) := by
  have hlast : ∀ time ∈ recentTimes config entries now key, Double.le time now = true :=
    hpast.recentTimes now key
  refine ⟨fun entry hentry => ?_, ?_⟩
  · rcases List.mem_append.mp hentry with hmem | hmem
    · exact h.times entry (List.mem_of_mem_filter hmem)
    · rw [List.mem_singleton.mp hmem]
      refine List.pairwise_append.mpr
        ⟨h.pairwise_recentTimes key, List.pairwise_singleton _ _, fun time htime last hmem => ?_⟩
      rw [List.mem_singleton.mp hmem]
      exact hlast time htime
  · have hremove : (lastTimes (remove key entries)).Sublist (lastTimes entries) :=
      List.filter_sublist.filterMap _
    rw [lastTimes_append, lastTimes_cons, List.getLast?_append]
    refine List.pairwise_append.mpr
      ⟨h.keys.sublist hremove, List.pairwise_singleton _ _, fun time htime last hmem => ?_⟩
    obtain ⟨entry, hentry, htime⟩ := mem_of_mem_lastTimes (hremove.mem htime)
    rw [List.mem_singleton.mp hmem]
    exact hpast entry hentry time htime

theorem InOrder.check (h : InOrder entries) (hlimit : 1 ≤ config.maxRequests)
    (hpast : Past now entries) (key : String) :
    InOrder (Limiter.check config entries now key).2 := by
  rcases check_snd_cases hlimit entries now key with
    ⟨before, after, hentries, hdenied, hcheck⟩ | ⟨-, hcheck⟩
  · -- the last time of the key counts, so it stays
    have hlast : (recentTimes config entries now key).getLast? =
        (Limiter.times entries key).getLast? := by
      refine getLast?_filter_isLive (forall_times List.Pairwise.nil h.times key)
        (List.ne_nil_of_length_pos ?_)
      rw [recentTimes] at hdenied
      omega
    refine ⟨fun entry hentry => ?_, ?_⟩
    · rcases mem_check hlimit hentry with hold | rfl
      · exact h.times entry hold
      · simp only [remembered, if_pos hdenied]
        exact h.pairwise_recentTimes key
    · have hkeys := h.keys
      rw [hentries, lastTimes_append, lastTimes_cons] at hkeys
      rw [hcheck, lastTimes_append, lastTimes_cons, hlast]
      exact hkeys
  · rw [hcheck]
    exact (h.remove_append hpast key).of_suffix (evict_suffix config now _)

/-! ## Runs -/

theorem run_cons (config : Config) (entries : Entries) (request : Double × String)
    (requests : List (Double × String)) :
    run config entries (request :: requests) =
      ((check config entries request.1 request.2).1 ::
          (run config (check config entries request.1 request.2).2 requests).1,
        (run config (check config entries request.1 request.2).2 requests).2) := rfl

theorem Fits.run (h : Fits config entries) (hlimit : 1 ≤ config.maxRequests)
    (requests : List (Double × String)) : Fits config (Limiter.run config entries requests).2 := by
  induction requests generalizing entries with
  | nil => exact h
  | cons request requests ih =>
    rw [run_cons]
    exact ih (h.check hlimit request.1 request.2)

theorem AllTimes.run (h : AllTimes P entries) (hlimit : 1 ≤ config.maxRequests)
    (hrequests : ∀ request ∈ requests, P request.1) :
    AllTimes P (Limiter.run config entries requests).2 := by
  induction requests generalizing entries with
  | nil => exact h
  | cons request requests ih =>
    rw [run_cons]
    exact ih (h.check hlimit (hrequests request List.mem_cons_self) request.2)
      fun request hmem => hrequests request (List.mem_cons_of_mem _ hmem)

/-- A run keeps the order if none of its requests comes before what is remembered. -/
theorem InOrder.run (h : InOrder entries) (hlimit : 1 ≤ config.maxRequests)
    (hordered : Ordered requests) (hpast : ∀ request ∈ requests, Past request.1 entries) :
    InOrder (Limiter.run config entries requests).2 := by
  induction requests generalizing entries with
  | nil => exact h
  | cons request requests ih =>
    rw [Ordered, List.pairwise_cons] at hordered
    rw [run_cons]
    refine ih (h.check hlimit (hpast request List.mem_cons_self) request.2) hordered.2 ?_
    intro later hmem
    exact (hpast later (List.mem_cons_of_mem _ hmem)).check hlimit (hordered.1 later hmem) request.2

/-! ## Keys that have left the window -/

theorem isExpired_of_getLast? {recent : List Double} {last : Double}
    (h : recent.getLast? = some last) :
    isExpired window now recent = Double.le window (now.sub last) := by
  rw [isExpired, h]

/-- The last of ordered times leaves the window last. -/
theorem isExpired_iff {recent : List Double} (hne : recent ≠ [])
    (hsorted : recent.Pairwise fun a b => Double.le a b = true)
    (hpast : ∀ time ∈ recent, Double.le time now = true) :
    isExpired window now recent = true ↔
      ∀ time ∈ recent, Double.le window (now.sub time) = true := by
  rcases List.eq_nil_or_concat' recent with rfl | ⟨earlier, last, rfl⟩
  · exact absurd rfl hne
  · have hlast : last ∈ earlier ++ [last] := List.mem_append_right _ List.mem_cons_self
    rw [List.pairwise_append] at hsorted
    rw [isExpired_of_getLast? List.getLast?_concat]
    refine ⟨fun h time htime => ?_, fun h => h last hlast⟩
    rcases List.mem_append.mp htime with hmem | hmem
    · exact Double.le_sub_of_le (hsorted.2.2 time hmem last List.mem_cons_self) (hpast last hlast) h
    · rw [List.mem_singleton.mp hmem]
      exact h

/-- What is true of an element when it is true of a later one is true of the first ones. -/
theorem filter_prefix_of_pairwise {α : Type} {p : α → Bool} {l : List α}
    (h : l.Pairwise fun a b => p b = true → p a = true) : l.filter p <+: l := by
  induction l with
  | nil => exact List.prefix_refl _
  | cons a l ih =>
    rw [List.pairwise_cons] at h
    by_cases ha : p a = true
    · rw [List.filter_cons_of_pos ha]
      exact (List.prefix_cons_inj a).mpr (ih h.2)
    · have hnone : l.filter p = [] :=
        List.filter_eq_nil_iff.mpr fun b hb hpb => ha (h.1 b hb hpb)
      rw [List.filter_cons_of_neg ha, hnone]
      exact List.nil_prefix

/-- A key before one that has left the window has left it too, for the last times are in order. -/
theorem InOrder.pairwise_isExpired (h : InOrder entries) (hpast : Past now entries)
    (hne : ∀ entry ∈ entries, entry.2 ≠ []) (window : Double) :
    entries.Pairwise fun first second =>
      isExpired window now second.2 = true → isExpired window now first.2 = true := by
  have hkeys := List.pairwise_filterMap.mp h.keys
  refine hkeys.imp_of_mem fun {first second} hfirst hsecond hle => ?_
  have hlast := List.getLast?_eq_some_getLast (hne first hfirst)
  have hlast' := List.getLast?_eq_some_getLast (hne second hsecond)
  rw [isExpired_of_getLast? hlast, isExpired_of_getLast? hlast']
  intro hexpired
  exact Double.le_sub_of_le (hle _ hlast _ hlast')
    (hpast second hsecond _ (List.getLast_mem (hne second hsecond))) hexpired

/-- The keys that have left the window come first. -/
theorem filter_isExpired_prefix (h : InOrder entries) (hpast : Past now entries)
    (hne : ∀ entry ∈ entries, entry.2 ≠ []) (window : Double) :
    entries.filter (fun entry => isExpired window now entry.2) <+: entries :=
  filter_prefix_of_pairwise (h.pairwise_isExpired hpast hne window)

/-! ## New limiters -/

/-- **The shape of the entries after any checks.** Whatever the clock does, there are no more keys
than allowed, and each has a time and no more times than requests are allowed.  If the clock does
not go back, the times of every key and the last times of the keys are in order, and at every time
that is not before the checks, the keys whose times have all left the window come first. -/
theorem run_shape (hlimit : 1 ≤ config.maxRequests) (requests : List (Double × String)) :
    let entries := (run config [] requests).2
    (entries.map Prod.fst).Nodup ∧ (entries.length : Int) ≤ max config.maxKeys 0 ∧
      (∀ entry ∈ entries,
        1 ≤ entry.2.length ∧ (entry.2.length : Int) ≤ config.maxRequests) ∧
      (Ordered requests →
        (∀ entry ∈ entries, entry.2.Pairwise fun a b => Double.le a b = true) ∧
        (lastTimes entries).Pairwise (fun a b => Double.le a b = true) ∧
        ∀ now, (∀ request ∈ requests, Double.le request.1 now = true) →
          (∀ entry ∈ entries, isExpired config.window now entry.2 = true ↔
            ∀ time ∈ entry.2, Double.le config.window (now.sub time) = true) ∧
          entries.filter (fun entry => isExpired config.window now entry.2) <+: entries) := by
  intro entries
  have hfits : Fits config entries := (fits_nil config).run hlimit requests
  have hne : ∀ entry ∈ entries, entry.2 ≠ [] := fun entry hentry =>
    List.ne_nil_of_length_pos (hfits.one_le_length entry hentry)
  refine ⟨hfits.nodup, hfits.length_le, fun entry hentry => ?_, fun hordered => ?_⟩
  · exact ⟨hfits.one_le_length entry hentry, hfits.length_times_le entry hentry⟩
  · have horder : InOrder entries :=
      inOrder_nil.run hlimit hordered fun request _ => allTimes_nil _
    refine ⟨horder.times, horder.keys, fun now hnow => ?_⟩
    have hpast : Past now entries := (allTimes_nil _).run hlimit hnow
    refine ⟨fun entry hentry => ?_, filter_isExpired_prefix horder hpast hne config.window⟩
    exact isExpired_iff (hne entry hentry) (horder.times entry hentry) (hpast entry hentry)

/-- Three clients and room for two: the one whose last allowed request is the oldest is dropped, and
at a later time the keys that have left the window come first. -/
theorem run_shape_threeClients :
    (run ⟨2, .ofInt 60, 2⟩ [] [(.ofInt 0, "a"), (.ofInt 10, "b"), (.ofInt 20, "a"),
        (.ofInt 30, "a"), (.ofInt 40, "c")]).2 =
      [("a", [.ofInt 0, .ofInt 20]), ("c", [.ofInt 40])] ∧
    [("a", [Double.ofInt 0, .ofInt 20]), ("c", [.ofInt 40])].filter
        (fun entry => isExpired (.ofInt 60) (.ofInt 90) entry.2) <+:
      [("a", [.ofInt 0, .ofInt 20]), ("c", [.ofInt 40])] := by
  have hrun : (run ⟨2, .ofInt 60, 2⟩ [] [(.ofInt 0, "a"), (.ofInt 10, "b"), (.ofInt 20, "a"),
      (.ofInt 30, "a"), (.ofInt 40, "c")]).2 =
        [("a", [.ofInt 0, .ofInt 20]), ("c", [.ofInt 40])] := by decide +kernel
  have hshape := (@run_shape ⟨2, .ofInt 60, 2⟩ (by decide) [(.ofInt 0, "a"), (.ofInt 10, "b"),
    (.ofInt 20, "a"), (.ofInt 30, "a"), (.ofInt 40, "c")]).2.2.2 (by unfold Ordered; decide +kernel)
  rw [hrun] at hshape
  have hlater : ∀ request ∈ [(Double.ofInt 0, "a"), (.ofInt 10, "b"), (.ofInt 20, "a"),
      (.ofInt 30, "a"), (.ofInt 40, "c")], Double.le request.1 (.ofInt 90) = true := by
    decide +kernel
  have hprefix := (hshape.2.2 (.ofInt 90) hlater).2
  exact ⟨hrun, by simpa only using hprefix⟩

end Limiter

end TapeMeasure
