import TapeMeasure.Proofs.Double.Exact
import TapeMeasure.Proofs.Limiter.Answers
import TapeMeasure.Proofs.Limiter.Denial

/-!
# How long to wait

A denied request is told to wait until the oldest of the requests that count has left the window.
While that one counts, so do all the others, and denied requests change none of them; once it has
left, fewer count than are allowed.  So nothing else than a request of the same key that is allowed
in between, or the key being dropped, can make the wait too long or too short.

This takes a clock at which sums and differences are not rounded.

* `IsExactClock`: such a clock; `isExactClock_whole` says that whole seconds are one.
* `times_check_of_ne`: a check of another key leaves the times of a key, or drops the key.
* `times_run_of_isLive`: a key that is not dropped keeps its times while they count.
* `times_run_sublist`: a key of which no request is allowed gets no new times.
* `Blocked`: a key of which as many requests count as are allowed, which `exists_blocked_of_denied`
  finds behind a denied request and `Blocked.exists_next` follows to the next one.
-/

namespace TapeMeasure

namespace Limiter

variable {config : Config} {entries : Entries} {key : String} {window now time : Double}
  {recent : List Double} {requests : List (Double × String)}

/-! ## Clocks -/

/-- Sums and differences of the given times are not rounded: the ends of their windows, how long ago
one of them was at another, and how long its window lasts from there. -/
structure IsExactClock (window : Double) (clock : List Double) : Prop where
  sum : ∀ time ∈ clock, Double.IsExactSum time window
  difference : ∀ time ∈ clock, ∀ now ∈ clock, Double.le time now = true →
    Double.IsExactDifference now time
  wait : ∀ time ∈ clock, ∀ now ∈ clock, Double.le time now = true →
    isLive window now time = true → Double.IsExactDifference (time.add window) now

variable {clock : List Double}

theorem IsExactClock.isFinite_window (h : IsExactClock window clock) (htime : time ∈ clock) :
    window.isFinite = true :=
  (Double.isFinite_of_add (h.sum time htime).isFinite).2

theorem IsExactClock.isFinite (h : IsExactClock window clock) (htime : time ∈ clock) :
    time.isFinite = true :=
  (Double.isFinite_of_add (h.sum time htime).isFinite).1

/-- A request counts until its window ends. -/
theorem IsExactClock.isLive_iff (h : IsExactClock window clock) (htime : time ∈ clock)
    (hnow : now ∈ clock) (hle : Double.le time now = true) :
    isLive window now time = true ↔ now.toRat < time.toRat + window.toRat := by
  have hdifference := h.difference time htime now hnow hle
  rw [isLive, Double.lt_iff_toRat hdifference.isFinite (h.isFinite_window htime),
    hdifference.toRat_eq, sub_lt_iff_lt_add']

/-- What remains of the window of a request that counts. -/
theorem IsExactClock.toRat_retryAfter (h : IsExactClock config.window clock)
    (htime : time ∈ clock) (hnow : now ∈ clock) (hle : Double.le time now = true)
    (hlive : isLive config.window now time = true) :
    (retryAfter config now time).isFinite = true ∧
      (retryAfter config now time).toRat = time.toRat + config.window.toRat - now.toRat := by
  have hwait := h.wait time htime now hnow hle hlive
  have hvalue : ((time.add config.window).sub now).toRat =
      time.toRat + config.window.toRat - now.toRat := by
    rw [hwait.toRat_eq, (h.sum time htime).toRat_eq]
  have hpos : 0 < ((time.add config.window).sub now).toRat := by
    rw [hvalue, sub_pos]
    exact (h.isLive_iff htime hnow hle).mp hlive
  rw [retryAfter, Double.positivePart_of_toRat_pos hwait.isFinite hpos]
  exact ⟨hwait.isFinite, hvalue⟩

/-- A whole number of seconds below `2 ^ 52`. -/
def IsWhole (time : Double) : Prop :=
  ∃ seconds : Int, seconds.natAbs < 2 ^ 52 ∧ .ofInt seconds = time

theorem isWhole_ofInt {seconds : Int} (h : seconds.natAbs < 2 ^ 52) : IsWhole (.ofInt seconds) :=
  ⟨seconds, h, rfl⟩

/-- Nothing is rounded at a clock of whole seconds. -/
theorem isExactClock_whole (hwindow : IsWhole window) (hclock : ∀ time ∈ clock, IsWhole time) :
    IsExactClock window clock := by
  obtain ⟨seconds, hseconds, rfl⟩ := hwindow
  constructor
  case sum =>
    intro time htime
    obtain ⟨n, hn, rfl⟩ := hclock time htime
    exact Double.isExactSum_ofInt (by omega) (by omega) (by omega)
  case difference =>
    intro time htime now hnow _
    obtain ⟨n, hn, rfl⟩ := hclock time htime
    obtain ⟨m, hm, rfl⟩ := hclock now hnow
    exact Double.isExactDifference_ofInt (by omega) (by omega) (by omega)
  case wait =>
    intro time htime now hnow hle hlive
    obtain ⟨n, hn, rfl⟩ := hclock time htime
    obtain ⟨m, hm, rfl⟩ := hclock now hnow
    have hago := Double.isExactDifference_ofInt (a := m) (b := n) (by omega) (by omega) (by omega)
    have hless : m - n < seconds := by
      rw [isLive, Double.lt_iff_toRat hago.isFinite (Double.isFinite_ofInt (by omega)),
        hago.toRat_eq, Double.toRat_ofInt (by omega), Double.toRat_ofInt (by omega),
        Double.toRat_ofInt (by omega)] at hlive
      exact_mod_cast hlive
    have hpassed : n ≤ m := by
      rw [Double.le_iff_toRat hago.isFinite_right hago.isFinite_left,
        Double.toRat_ofInt (by omega), Double.toRat_ofInt (by omega)] at hle
      exact_mod_cast hle
    rw [Double.ofInt_add (by omega) (by omega)]
    exact Double.isExactDifference_ofInt (by omega) (by omega) (by omega)

/-! ## One key among others -/

theorem times_eq_nil_of_notMem (h : key ∉ entries.map Prod.fst) : times entries key = [] := by
  by_contra hne
  exact h (List.mem_map_of_mem (mem_of_times hne))

/-- What is left of the entries has the same times for a key, or none. -/
theorem times_of_suffix {kept : Entries} (hnodup : (entries.map Prod.fst).Nodup)
    (hsuffix : kept <:+ entries) (hkey : key ∈ kept.map Prod.fst) :
    times kept key = times entries key := by
  obtain ⟨front, rfl⟩ := hsuffix
  induction front with
  | nil => rfl
  | cons entry front ih =>
    rw [List.cons_append, List.map_cons, List.nodup_cons] at hnodup
    have hne : entry.1 ≠ key := by
      rintro rfl
      exact hnodup.1 (List.map_append ▸ List.mem_append_right _ hkey)
    rw [List.cons_append, times_cons, if_neg hne]
    exact ih hnodup.2

/-- A check of another key leaves the times of a key as they are, or drops the key. -/
theorem times_check_of_ne {other : String} (hnodup : (entries.map Prod.fst).Nodup)
    (hne : other ≠ key) :
    times (check config entries now other).2 key =
      if key ∈ (check config entries now other).2.map Prod.fst then times entries key else [] := by
  by_cases hkey : key ∈ (check config entries now other).2.map Prod.fst
  · rw [if_pos hkey]
    simp only [check] at hkey ⊢
    split
    · exact times_put_of_ne hne.symm _ _
    · rename_i hallowed
      rw [if_neg hallowed] at hkey
      rw [times_of_suffix (nodup_keys_remove_append hnodup _) (evict_suffix config now _) hkey,
        times_remove_append, if_neg hne]
  · rw [if_neg hkey, times_eq_nil_of_notMem hkey]

/-- A denied request of a key leaves it the times that count. -/
theorem times_check_of_isDenied (hdenied : IsDenied config entries now key) :
    times (check config entries now key).2 key = recentTimes config entries now key := by
  rw [IsDenied] at hdenied
  simp only [check, if_pos hdenied, times_put_self]

/-- If every request leaves the window at some time, the answer tells whether one is denied. -/
theorem exists_decision_of_allTimes (hlimit : 1 ≤ config.maxRequests)
    (hentries : AllTimes (fun time => (time.add config.window).isFinite = true) entries)
    (hnow : (now.add config.window).isFinite = true) (key : String) :
    ∃ decision, (check config entries now key).1 = .ok decision ∧
      (IsDenied config entries now key ↔ decision.allowed = false) := by
  obtain ⟨decision, hanswer⟩ := (exists_decision_iff hlimit).mpr (hentries.oldest hnow config key)
  exact ⟨decision, hanswer, isDenied_iff hanswer⟩

/-! ## While the oldest request counts -/

/-- A key that is not dropped keeps the times that blocked it, as long as they count. -/
theorem times_run_of_isLive (hlimit : 1 ≤ config.maxRequests) (hfits : Fits config entries)
    (htimes : times entries key = recent) (hblocked : config.maxRequests ≤ recent.length)
    (hlive : ∀ made ∈ recent, isLive config.window time made = true)
    (hpast : ∀ request ∈ requests, Double.le request.1 time = true)
    (hkept : ∀ done, done <+: requests → key ∈ (run config entries done).2.map Prod.fst) :
    times (run config entries requests).2 key = recent := by
  induction requests generalizing entries with
  | nil => exact htimes
  | cons request requests ih =>
    obtain ⟨now, other⟩ := request
    have hnow : Double.le now time = true := hpast _ List.mem_cons_self
    rw [run_cons]
    refine ih (hfits.check hlimit now other) ?_
      (fun request hmem => hpast request (List.mem_cons_of_mem _ hmem)) fun done hdone => ?_
    · by_cases hkey : other = key
      · subst hkey
        have hrecent : recentTimes config entries now other = recent := by
          rw [recentTimes, htimes]
          exact List.filter_eq_self.mpr fun made hmade => isLive_of_le hnow (hlive made hmade)
        rw [times_check_of_isDenied (by rwa [IsDenied, hrecent]), hrecent]
      · have hmem : key ∈ (check config entries now other).2.map Prod.fst :=
          hkept [(now, other)] ((List.prefix_cons_inj _).mpr List.nil_prefix)
        rw [times_check_of_ne hfits.nodup hkey, if_pos hmem, htimes]
    · exact hkept ((now, other) :: done) ((List.prefix_cons_inj _).mpr hdone)

/-! ## When it has left -/

/-- A key of which no request is allowed gets no new times. -/
theorem times_run_sublist (hlimit : 1 ≤ config.maxRequests) (hfits : Fits config entries)
    (htimes : (times entries key).Sublist recent)
    (hentries : AllTimes (fun time => (time.add config.window).isFinite = true) entries)
    (hrequests : ∀ request ∈ requests, (request.1.add config.window).isFinite = true)
    (hnone : ∀ answer ∈ answersFor key requests (run config entries requests).1,
      isAllowed answer = false) :
    (times (run config entries requests).2 key).Sublist recent := by
  induction requests generalizing entries with
  | nil => exact htimes
  | cons request requests ih =>
    obtain ⟨now, other⟩ := request
    have hnow : (now.add config.window).isFinite = true := hrequests _ List.mem_cons_self
    rw [run_cons, answersFor_cons] at hnone
    rw [run_cons]
    refine ih (hfits.check hlimit now other) ?_ (hentries.check hlimit hnow other)
      (fun request hmem => hrequests request (List.mem_cons_of_mem _ hmem)) fun answer hanswer => ?_
    · by_cases hkey : other = key
      · subst hkey
        rw [if_pos rfl] at hnone
        obtain ⟨decision, hanswer, hdenied⟩ :=
          exists_decision_of_allTimes hlimit hentries hnow other
        have hnot := hnone _ List.mem_cons_self
        rw [hanswer] at hnot
        rw [times_check_of_isDenied (hdenied.mpr hnot)]
        exact (recentTimes_sublist config entries now other).trans htimes
      · rw [times_check_of_ne hfits.nodup hkey]
        split
        · exact htimes
        · exact List.nil_sublist _
    · refine hnone answer ?_
      split
      · exact List.mem_cons_of_mem _ hanswer
      · exact hanswer

/-- Without its oldest request, a key has fewer that count than are allowed. -/
theorem not_isDenied_of_sublist {oldest : Double} {others : List Double}
    (htimes : (times entries key).Sublist (oldest :: others))
    (hlength : ((oldest :: others).length : Int) ≤ config.maxRequests)
    (hleft : isLive config.window now oldest = false) : ¬ IsDenied config entries now key := by
  have hsublist : (recentTimes config entries now key).Sublist others := by
    have hfilter := htimes.filter (isLive config.window now)
    rw [List.filter_cons_of_neg (Bool.eq_false_iff.mp hleft)] at hfilter
    exact hfilter.trans List.filter_sublist
  have hle := hsublist.length_le
  rw [List.length_cons] at hlength
  rw [IsDenied]
  omega

/-! ## Blocked keys -/

/-- As many requests of a key are remembered as may be allowed, oldest first. -/
structure Blocked (config : Config) (entries : Entries) (key : String) (oldest : Double)
    (others : List Double) : Prop where
  fits : Fits config entries
  times_eq : times entries key = oldest :: others
  many : config.maxRequests ≤ (oldest :: others).length
  oldest_le : ∀ made ∈ others, Double.le oldest made = true

variable {oldest : Double} {others : List Double}

theorem Blocked.length_le (h : Blocked config entries key oldest others) :
    ((oldest :: others).length : Int) ≤ config.maxRequests := by
  have hne : times entries key ≠ [] := by
    rw [h.times_eq]
    exact List.cons_ne_nil _ _
  rw [← h.times_eq]
  exact h.fits.length_times_le _ (mem_of_times hne)

/-- A blocked key that is not dropped is denied while its oldest request counts. -/
theorem Blocked.isDenied_run (h : Blocked config entries key oldest others)
    (hlimit : 1 ≤ config.maxRequests) (hlive : isLive config.window time oldest = true)
    (hpast : ∀ request ∈ requests, Double.le request.1 time = true)
    (hkept : ∀ done, done <+: requests → key ∈ (run config entries done).2.map Prod.fst) :
    IsDenied config (run config entries requests).2 time key := by
  have hall : ∀ made ∈ oldest :: others, isLive config.window time made = true :=
    List.forall_mem_cons.mpr ⟨hlive, fun made hmade =>
      Double.lt_sub_of_ge (h.oldest_le made hmade) hlive⟩
  have htimes := times_run_of_isLive hlimit h.fits h.times_eq h.many hall hpast hkept
  rw [IsDenied, recentTimes, htimes, List.filter_eq_self.mpr hall]
  exact h.many

/-- A blocked key of which no request is allowed is not denied when its oldest request has left. -/
theorem Blocked.not_isDenied_run (h : Blocked config entries key oldest others)
    (hlimit : 1 ≤ config.maxRequests) (hleft : isLive config.window time oldest = false)
    (hentries : AllTimes (fun time => (time.add config.window).isFinite = true) entries)
    (hrequests : ∀ request ∈ requests, (request.1.add config.window).isFinite = true)
    (hnone : ∀ answer ∈ answersFor key requests (run config entries requests).1,
      isAllowed answer = false) :
    ¬ IsDenied config (run config entries requests).2 time key := by
  have htimes : (times entries key).Sublist (oldest :: others) := by rw [h.times_eq]
  exact not_isDenied_of_sublist
    (times_run_sublist hlimit h.fits htimes hentries hrequests hnone) h.length_le hleft

/-- While its oldest request counts, the next request of a blocked key is answered with "denied",
unless the key was dropped; when it has left, with "allowed", unless another one has been. -/
theorem Blocked.exists_next (h : Blocked config entries key oldest others)
    (hlimit : 1 ≤ config.maxRequests)
    (hentries : AllTimes (fun time => (time.add config.window).isFinite = true) entries)
    (hrequests : ∀ request ∈ requests, (request.1.add config.window).isFinite = true)
    (htime : (time.add config.window).isFinite = true)
    (hpast : ∀ request ∈ requests, Double.le request.1 time = true) :
    ∃ next, (check config (run config entries requests).2 time key).1 = .ok next ∧
      (isLive config.window time oldest = true →
        (∀ done, done <+: requests → key ∈ (run config entries done).2.map Prod.fst) →
        next.allowed = false) ∧
      (isLive config.window time oldest = false →
        (∀ answer ∈ answersFor key requests (run config entries requests).1,
          isAllowed answer = false) →
        next.allowed = true) := by
  obtain ⟨next, hnext, hdenied⟩ :=
    exists_decision_of_allTimes hlimit (hentries.run hlimit hrequests) htime key
  refine ⟨next, hnext, fun hlive hkept => ?_, fun hleft hnone => ?_⟩
  · exact hdenied.mp (h.isDenied_run hlimit hlive hpast hkept)
  · have hfree := h.not_isDenied_run hlimit hleft hentries hrequests hnone
    rw [hdenied, Bool.not_eq_false] at hfree
    exact hfree

/-- A denied request leaves its key blocked, and is told to wait until the oldest one has left. -/
theorem exists_blocked_of_denied {decision : Decision} (hlimit : 1 ≤ config.maxRequests)
    (hfits : Fits config entries) (horder : InOrder entries)
    (hanswer : (check config entries now key).1 = .ok decision)
    (hdenied : decision.allowed = false) :
    ∃ oldest others, Blocked config (check config entries now key).2 key oldest others ∧
      oldest ∈ recentTimes config entries now key ∧
      decision.retryAfter = retryAfter config now oldest := by
  have hblocked : config.maxRequests ≤ (recentTimes config entries now key).length :=
    (isDenied_iff hanswer).mpr hdenied
  have htimes : times (check config entries now key).2 key = recentTimes config entries now key :=
    times_check_of_isDenied hblocked
  have hsorted : (recentTimes config entries now key).Pairwise fun a b => Double.le a b = true :=
    horder.pairwise_recentTimes key
  rw [check_fst, verdict, if_pos hblocked] at hanswer
  cases hrecent : recentTimes config entries now key with
  | nil =>
    rw [hrecent] at hanswer
    cases hanswer
  | cons oldest others =>
    rw [hrecent] at hanswer htimes hblocked hsorted
    obtain ⟨reset, -, rfl⟩ := map_eq_ok_iff.mp hanswer
    exact ⟨oldest, others, ⟨hfits.check hlimit now key, htimes, hblocked,
      (List.pairwise_cons.mp hsorted).1⟩, List.mem_cons_self, rfl⟩

end Limiter

end TapeMeasure
