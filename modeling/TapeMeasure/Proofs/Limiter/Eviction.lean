import Mathlib.Data.List.Dedup
import Mathlib.Data.List.DropRight
import TapeMeasure.Proofs.Except
import TapeMeasure.Proofs.Limiter.Clock

/-!
# The keys that stay

When there are too many keys, two rules meet in one walk along the entries: the keys that have left
the window go, and then the oldest ones until the number is right.  Since the keys are in the order
of their last allowed requests, those that have left the window come first, and what is left is the
end of the list of live keys.

* `evictFront_eq_rtake`: the walk leaves the last ones of the live keys.
* `check_snd_eq_rtake`: so does a request that is let through at a finite time.
* `exists_finite_of_allowed`: a request that is answered with "allowed" is let through at a finite
  time.
* `allowedKeys`: the keys of the requests that a run lets through; `keys_run` says that the keys of
  the entries are in the order of their last allowed requests, also among equal times.
* `check_keepsLatest`: what an allowed request leaves of the keys.
-/

namespace TapeMeasure

namespace Limiter

variable {config : Config} {entries : Entries} {key : String} {window now : Double}
  {requests : List (Double × String)} {seen : List String}

/-! ## The walk along the entries -/

/-- The walk leaves the last ones of the keys that have not left the window, if those that have come
first. -/
theorem evictFront_eq_rtake (h : entries.Pairwise fun first second =>
      isExpired config.window now second.2 = true → isExpired config.window now first.2 = true) :
    evictFront config now entries =
      (entries.filter fun entry => !isExpired config.window now entry.2).rtake
        config.maxKeys.toNat := by
  induction entries with
  | nil => rw [List.filter_nil, List.rtake_nil, evictFront]
  | cons entry entries ih =>
    rw [List.pairwise_cons] at h
    rw [evictFront]
    by_cases hexpired : isExpired config.window now entry.2 = true
    · rw [if_neg fun hkept => absurd hkept.1 (by rw [hexpired]; decide), ih h.2,
        List.filter_cons_of_neg (by simpa using hexpired)]
    · rw [Bool.not_eq_true] at hexpired
      -- nothing behind a live key has left the window
      have hlive : entries.filter (fun entry => !isExpired config.window now entry.2) = entries :=
        List.filter_eq_self.mpr fun later hlater => by
          simpa [hexpired] using h.1 later hlater
      rw [List.filter_cons_of_pos (by rw [hexpired]; rfl), hlive]
      split
      · rename_i hkept
        rw [List.rtake, Nat.sub_eq_zero_of_le (by omega), List.drop_zero]
      · rename_i hdropped
        have hmany : config.maxKeys.toNat ≤ entries.length := by
          rw [not_and, hexpired, List.length_cons] at hdropped
          have := hdropped rfl
          omega
        rw [ih h.2, hlive, List.rtake, List.rtake, List.length_cons, Nat.sub_add_comm hmany,
          List.drop_succ_cons]

/-! ## Live keys -/

/-- Whether the last remembered request of a key still counts. -/
def isLiveEntry (window now : Double) (entry : String × List Double) : Bool :=
  entry.2.getLast?.any (isLive window now)

/-- At a finite time a key has left the window exactly if it is not live. -/
theorem not_isExpired (hwindow : window ≠ .nan) (hnow : now.isFinite = true)
    {entry : String × List Double} (hpast : ∀ time ∈ entry.2, Double.le time now = true) :
    (!isExpired window now entry.2) = isLiveEntry window now entry := by
  rw [isExpired, isLiveEntry]
  cases hlast : entry.2.getLast? with
  | none => rfl
  | some last =>
    have hnumber := Double.sub_ne_nan hnow (hpast last (List.mem_of_getLast? hlast))
    show (!Double.le window (now.sub last)) = Double.lt (now.sub last) window
    cases hlt : Double.lt (now.sub last) window with
    | true =>
      rw [Bool.not_eq_true', Bool.eq_false_iff]
      intro hle
      rw [Double.lt_eq_false_of_le hle] at hlt
      cases hlt
    | false =>
      rw [Double.le_of_lt_eq_false hnumber hwindow hlt]
      rfl

/-- The entries with a key moved to the end, with its times that count and the present one: what a
request leaves that is let through, before any keys are dropped. -/
def moveToEnd (config : Config) (entries : Entries) (now : Double) (key : String) : Entries :=
  remove key entries ++ [(key, recentTimes config entries now key ++ [now])]

theorem check_snd_of_allowed
    (hallowed : ((recentTimes config entries now key).length : Int) < config.maxRequests) :
    (check config entries now key).2 = evict config now (moveToEnd config entries now key) := by
  simp only [check, if_neg (not_le.mpr hallowed)]
  rfl

theorem Past.moveToEnd (h : Past now entries) (hnow : Double.le now now = true) (key : String) :
    Past now (moveToEnd config entries now key) := by
  intro entry hentry time htime
  rcases List.mem_append.mp hentry with hmem | hmem
  · exact h entry (List.mem_of_mem_filter hmem) time htime
  · rw [List.mem_singleton.mp hmem] at htime
    rcases List.mem_append.mp htime with hold | hlast
    · exact h.recentTimes now key time hold
    · rwa [List.mem_singleton.mp hlast]

theorem ne_nil_of_mem_moveToEnd (hne : ∀ entry ∈ entries, entry.2 ≠ []) :
    ∀ entry ∈ moveToEnd config entries now key, entry.2 ≠ [] := by
  intro entry hentry
  rcases List.mem_append.mp hentry with hmem | hmem
  · exact hne entry (List.mem_of_mem_filter hmem)
  · rw [List.mem_singleton.mp hmem]
    exact List.append_ne_nil_of_right_ne_nil _ (List.cons_ne_nil _ _)

/-- The live keys that a request leaves when it is let through at a finite time. -/
theorem check_snd_eq_rtake (horder : InOrder entries) (hpast : Past now entries)
    (hne : ∀ entry ∈ entries, entry.2 ≠ []) (hnow : now.isFinite = true)
    (hwindow : config.window ≠ .nan)
    (hallowed : ((recentTimes config entries now key).length : Int) < config.maxRequests) :
    (check config entries now key).2 =
      if ((moveToEnd config entries now key).length : Int) ≤ config.maxKeys then
        moveToEnd config entries now key
      else ((moveToEnd config entries now key).filter (isLiveEntry config.window now)).rtake
        config.maxKeys.toNat := by
  have hself : Double.le now now = true := by
    rcases now with ⟨s, m⟩ | _ | _
    · exact decide_eq_true (Int.le_refl _)
    · cases hnow
    · cases hnow
  have hpast' : Past now (moveToEnd config entries now key) := hpast.moveToEnd hself key
  have hlive : (moveToEnd config entries now key).filter (fun entry =>
      !isExpired config.window now entry.2) =
        (moveToEnd config entries now key).filter (isLiveEntry config.window now) :=
    List.filter_congr fun entry hentry => not_isExpired hwindow hnow (hpast' entry hentry)
  have hexpired : (moveToEnd config entries now key).Pairwise fun first second =>
      isExpired config.window now second.2 = true → isExpired config.window now first.2 = true :=
    (horder.remove_append hpast key).pairwise_isExpired hpast' (ne_nil_of_mem_moveToEnd hne) _
  rw [check_snd_of_allowed hallowed, evict, evictFront_eq_rtake hexpired, hlive]

theorem allowed_of_deny {recent : List Double} {decision : Decision}
    (h : deny config now recent = .ok decision) : decision.allowed = false := by
  cases recent with
  | nil => cases h
  | cons oldest later =>
    obtain ⟨reset, -, rfl⟩ := map_eq_ok_iff.mp h
    rfl

theorem isFinite_of_allow {oldest : Double} {later : List Double} {decision : Decision}
    (h : allow config (oldest :: later) = .ok decision) : oldest.isFinite = true := by
  obtain ⟨reset, hreset, -⟩ := map_eq_ok_iff.mp h
  exact (Double.isFinite_of_add (isFinite_of_resetAt hreset)).1

/-- A request that is answered with "allowed" is let through, at a finite time. -/
theorem exists_finite_of_allowed {decision : Decision}
    (hpast : Past now entries) (hanswer : (check config entries now key).1 = .ok decision)
    (hallowed : decision.allowed = true) :
    now.isFinite = true ∧
      ((recentTimes config entries now key).length : Int) < config.maxRequests := by
  rw [check_fst, verdict] at hanswer
  split at hanswer
  · rw [allowed_of_deny hanswer] at hallowed
    cases hallowed
  · rename_i hfew
    refine ⟨?_, not_le.mp hfew⟩
    cases hrecent : recentTimes config entries now key with
    | nil =>
      rw [hrecent, List.nil_append] at hanswer
      exact isFinite_of_allow hanswer
    | cons oldest later =>
      have holdest : oldest ∈ recentTimes config entries now key := by
        rw [hrecent]
        exact List.mem_cons_self
      rw [hrecent, List.cons_append] at hanswer
      exact Double.isFinite_of_lt_sub (isFinite_of_allow hanswer)
        (hpast.recentTimes now key oldest holdest) (List.mem_filter.mp holdest).2

/-! ## The order of the last allowed requests -/

/-- The keys of the requests that a run lets through, in order. -/
def allowedKeys (config : Config) : Entries → List (Double × String) → List String
  | _, [] => []
  | entries, (now, key) :: requests =>
    let later := allowedKeys config (check config entries now key).2 requests
    if config.maxRequests ≤ (recentTimes config entries now key).length then later
    else key :: later

theorem allowedKeys_append (entries : Entries) (xs ys : List (Double × String)) :
    allowedKeys config entries (xs ++ ys) =
      allowedKeys config entries xs ++ allowedKeys config (run config entries xs).2 ys := by
  induction xs generalizing entries with
  | nil => rfl
  | cons request xs ih =>
    obtain ⟨now, key⟩ := request
    rw [List.cons_append, run_cons]
    simp only [allowedKeys, ih]
    split <;> rfl

/-- What comes last is kept at the end when earlier copies are left out. -/
theorem dedup_append_singleton (seen : List String) (key : String) :
    (seen ++ [key]).dedup = (seen.dedup.filter fun other => other != key) ++ [key] := by
  induction seen with
  | nil => rfl
  | cons other seen ih =>
    rw [List.cons_append]
    by_cases hmem : other ∈ seen
    · rw [List.dedup_cons_of_mem (List.mem_append_left _ hmem), List.dedup_cons_of_mem hmem, ih]
    · by_cases hkey : other = key
      · rw [List.dedup_cons_of_mem (by simp [hkey]), List.dedup_cons_of_notMem hmem,
          List.filter_cons_of_neg (by simp [hkey]), ih]
      · rw [List.dedup_cons_of_notMem (by simp [hkey, hmem]), List.dedup_cons_of_notMem hmem,
          List.filter_cons_of_pos (by simp [hkey]), List.cons_append, ih]

theorem keys_moveToEnd (h : (entries.map Prod.fst).Sublist seen.dedup) (now : Double)
    (key : String) :
    ((moveToEnd config entries now key).map Prod.fst).Sublist (seen ++ [key]).dedup := by
  have hremove : (remove key entries).map Prod.fst =
      (entries.map Prod.fst).filter fun other => other != key := by
    rw [remove, List.filter_map]
    rfl
  rw [moveToEnd, List.map_append, hremove, dedup_append_singleton]
  exact (h.filter _).append_right [key]

/-- The keys of the entries are in the order of their last allowed requests. -/
theorem keys_run (hlimit : 1 ≤ config.maxRequests)
    (h : (entries.map Prod.fst).Sublist seen.dedup) (requests : List (Double × String)) :
    ((run config entries requests).2.map Prod.fst).Sublist
      (seen ++ allowedKeys config entries requests).dedup := by
  induction requests generalizing entries seen with
  | nil =>
    rw [allowedKeys, List.append_nil]
    exact h
  | cons request requests ih =>
    obtain ⟨now, key⟩ := request
    rw [run_cons, allowedKeys]
    rcases check_snd_cases hlimit entries now key with
      ⟨before, after, hentries, hdenied, hcheck⟩ | ⟨hallowed, hcheck⟩
    · rw [if_pos hdenied]
      refine ih ?_
      rw [hentries] at h
      rw [hcheck]
      simpa using h
    · rw [if_neg (not_le.mpr hallowed), List.append_cons]
      refine ih ?_
      rw [hcheck]
      exact ((evict_suffix config now _).sublist.map Prod.fst).trans (keys_moveToEnd h now key)

/-! ## What an allowed request leaves -/

/-- The key of an allowed request is live at that time. -/
theorem filter_moveToEnd (hnow : now.isFinite = true)
    (hwindow : Double.lt .zero window = true) :
    (moveToEnd config entries now key).filter (isLiveEntry window now) =
      (remove key entries).filter (isLiveEntry window now) ++
        [(key, recentTimes config entries now key ++ [now])] := by
  have hlive :
      isLiveEntry window now (key, recentTimes config entries now key ++ [now]) = true := by
    rw [isLiveEntry, List.getLast?_concat]
    exact Double.lt_sub_self hnow hwindow
  rw [moveToEnd, List.filter_append, List.filter_cons_of_pos hlive, List.filter_nil]

/-- A key that is gone came before each one that stays. -/
theorem sublist_of_suffix {kept moved : Entries} (hsuffix : kept <:+ moved)
    {dropped entry : String × List Double} (hdropped : dropped ∈ moved) (hgone : dropped ∉ kept)
    (hentry : entry ∈ kept) : [dropped.1, entry.1].Sublist (moved.map Prod.fst) := by
  obtain ⟨front, rfl⟩ := hsuffix
  have hfront : dropped ∈ front := (List.mem_append.mp hdropped).resolve_right hgone
  rw [List.map_append]
  exact (List.singleton_sublist.mpr (List.mem_map_of_mem hfront)).append
    (List.singleton_sublist.mpr (List.mem_map_of_mem hentry))

/-- **The most recently allowed live keys stay.** An allowed request moves its key to the end, with
its times that count and the present one.  If there is room for all keys, that is all; otherwise the
last ones of the live keys stay, as many as there is room for, with their times, and no key that has
left the window.  The key itself always stays, and a live key that is dropped was allowed less
recently than every key that stays. -/
theorem check_keepsLatest {decision : Decision} (hlimit : 1 ≤ config.maxRequests)
    (hwindow : Double.lt .zero config.window = true) (hkeys : 1 ≤ config.maxKeys)
    (hordered : Ordered (requests ++ [(now, key)]))
    (hanswer : (check config (run config [] requests).2 now key).1 = .ok decision)
    (hallowed : decision.allowed = true) :
    let moved := moveToEnd config (run config [] requests).2 now key
    let live := moved.filter (isLiveEntry config.window now)
    let kept := (check config (run config [] requests).2 now key).2
    ((moved.length : Int) ≤ config.maxKeys → kept = moved) ∧
      (config.maxKeys < moved.length →
        kept = live.rtake (min config.maxKeys.toNat live.length) ∧
        ∀ entry ∈ kept, isLiveEntry config.window now entry = true) ∧
      (key, recentTimes config (run config [] requests).2 now key ++ [now]) ∈ kept ∧
      ∀ dropped ∈ live, dropped ∉ kept → ∀ entry ∈ kept,
        [dropped.1, entry.1].Sublist (allowedKeys config [] (requests ++ [(now, key)])).dedup := by
  intro moved live kept
  rw [Ordered, List.pairwise_append] at hordered
  have hpast : Past now (run config [] requests).2 :=
    (allTimes_nil _).run hlimit fun request hmem => hordered.2.2 request hmem _ List.mem_cons_self
  have horder : InOrder (run config [] requests).2 :=
    inOrder_nil.run hlimit hordered.1 fun _ _ => allTimes_nil _
  have hne : ∀ entry ∈ (run config [] requests).2, entry.2 ≠ [] := fun entry hentry =>
    List.ne_nil_of_length_pos (((fits_nil config).run hlimit requests).one_le_length entry hentry)
  have hnumber : config.window ≠ .nan := by
    intro hnan
    rw [hnan] at hwindow
    cases hwindow
  obtain ⟨hnow, hfew⟩ := exists_finite_of_allowed hpast hanswer hallowed
  have hkept : kept = if (moved.length : Int) ≤ config.maxKeys then moved
      else live.rtake config.maxKeys.toNat :=
    check_snd_eq_rtake horder hpast hne hnow hnumber hfew
  have hsuffix : kept <:+ moved := by
    rw [show kept = evict config now moved from check_snd_of_allowed hfew]
    exact evict_suffix config now moved
  refine ⟨fun hroom => by rw [hkept, if_pos hroom], fun hmany => ?_, ?_, ?_⟩
  · rw [if_neg (not_le.mpr hmany)] at hkept
    refine ⟨?_, fun entry hentry => ?_⟩
    · rw [hkept, List.rtake, List.rtake]
      congr 1
      omega
    · rw [hkept] at hentry
      exact (List.mem_filter.mp (List.mem_of_mem_drop hentry)).2
  · rw [hkept]
    split
    · exact List.mem_append_right _ List.mem_cons_self
    · obtain ⟨room, hroom⟩ : ∃ room, config.maxKeys.toNat = room + 1 :=
        ⟨config.maxKeys.toNat - 1, by omega⟩
      have hlive : live = _ := filter_moveToEnd hnow hwindow
      rw [hlive, hroom, List.rtake_concat_succ]
      exact List.mem_append_right _ List.mem_cons_self
  · intro dropped hdropped hgone entry hentry
    have hseen : ((run config [] requests).2.map Prod.fst).Sublist
        ([] ++ allowedKeys config [] requests).dedup :=
      keys_run hlimit (List.Sublist.refl _) requests
    rw [List.nil_append] at hseen
    have hallowedKeys : allowedKeys config [] (requests ++ [(now, key)]) =
        allowedKeys config [] requests ++ [key] := by
      rw [allowedKeys_append]
      simp only [allowedKeys, if_neg (not_le.mpr hfew)]
    rw [hallowedKeys]
    exact (sublist_of_suffix hsuffix (List.mem_of_mem_filter hdropped) hgone hentry).trans
      (keys_moveToEnd hseen now key)

/-- Two requests a minute, and room for two keys. -/
def roomForTwo : Config :=
  ⟨2, .ofInt 60, 2⟩

/-- Three clients, of which the second comes back last. -/
def threeClients : List (Double × String) :=
  [(.ofInt 0, "a"), (.ofInt 50, "b"), (.ofInt 55, "c"), (.ofInt 60, "b")]

/-- A fourth client finds three keys in the entries when there is room for two: one has left the
window, and of the live ones the least recently allowed goes, though its first request came later
than that of another. -/
theorem check_keepsLatest_fourthClient :
    Ordered (threeClients ++ [(.ofInt 65, "d")]) ∧
      (check roomForTwo (run roomForTwo [] threeClients).2 (.ofInt 65) "d").2 =
        [("b", [.ofInt 50, .ofInt 60]), ("d", [.ofInt 65])] ∧
      ["c", "b"].Sublist
        (allowedKeys roomForTwo [] (threeClients ++ [(.ofInt 65, "d")])).dedup := by
  have hordered : Ordered (threeClients ++ [(.ofInt 65, "d")]) := by
    unfold Ordered
    decide +kernel
  have hanswer : (check roomForTwo (run roomForTwo [] threeClients).2 (.ofInt 65) "d").1 =
      .ok ⟨true, 2, 1, 125, .zero⟩ := by decide +kernel
  obtain ⟨-, hmany, -, hdropped⟩ := check_keepsLatest (by decide) (by decide +kernel) (by decide)
    hordered hanswer rfl
  obtain ⟨hkept, -⟩ := hmany (by decide +kernel)
  have hlive : (moveToEnd roomForTwo (run roomForTwo [] threeClients).2 (.ofInt 65) "d").filter
      (isLiveEntry roomForTwo.window (.ofInt 65)) =
        [("c", [.ofInt 55]), ("b", [.ofInt 50, .ofInt 60]), ("d", [.ofInt 65])] := by
    decide +kernel
  rw [hlive] at hkept hdropped
  have hcheck : (check roomForTwo (run roomForTwo [] threeClients).2 (.ofInt 65) "d").2 =
      [("b", [.ofInt 50, .ofInt 60]), ("d", [.ofInt 65])] := hkept
  rw [hcheck] at hdropped
  exact ⟨hordered, hcheck, hdropped ("c", [.ofInt 55]) (by decide +kernel) (by decide +kernel)
    ("b", [.ofInt 50, .ofInt 60]) (by decide +kernel)⟩

end Limiter

end TapeMeasure
