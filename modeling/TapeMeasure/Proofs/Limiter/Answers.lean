import Mathlib.Data.List.Dedup
import Mathlib.Data.List.Perm.Basic
import TapeMeasure.Proofs.Except
import TapeMeasure.Proofs.Limiter.Clock
import TapeMeasure.Proofs.Limiter.Refinement
import TapeMeasure.Proofs.Limiter.Shape

/-!
# Which checks are answered

With a positive limit, a check is answered exactly if the oldest request that counts, or the one
that is checked if none does, leaves the window at a finite time, and there are never more keys than
allowed.  Without a positive limit every request is to be denied although none counts, so there is
no time to tell: no check is answered, and since nothing is allowed no key is ever dropped.

* `exists_decision_iff`: which checks are answered under a positive limit.
* `OnlyKeys`: the entries have some keys and no times; `OnlyKeys.run` follows a run without a
  positive limit.
* `check_answered`: both cases, for the runs of a new limiter.
-/

namespace TapeMeasure

namespace Limiter

variable {config : Config} {entries : Entries} {now : Double} {key : String}
  {requests : List (Double × String)} {seen : List String}

/-! ## A positive limit -/

/-- There is an answer exactly if the oldest request that counts leaves the window at a finite
time. -/
theorem exists_decision_iff (hlimit : 1 ≤ config.maxRequests) :
    (∃ decision, (check config entries now key).1 = .ok decision) ↔
      (((recentTimes config entries now key).headD now).add config.window).isFinite = true := by
  obtain ⟨retry, hanswer⟩ := agrees_verdict hlimit now (recentTimes config entries now key)
  rw [check_fst, hanswer]
  constructor
  · rintro ⟨decision, hdecision⟩
    obtain ⟨reset, hreset, -⟩ := map_eq_ok_iff.mp hdecision
    exact isFinite_of_resetAt hreset
  · intro hfinite
    obtain ⟨reset, hreset⟩ := exists_resetAt hfinite
    exact ⟨_, by rw [hreset]; rfl⟩

/-- What holds of the present time and of all remembered ones holds of the oldest that counts. -/
theorem AllTimes.oldest {P : Double → Prop} (h : AllTimes P entries) (hnow : P now)
    (config : Config) (key : String) :
    P ((Limiter.recentTimes config entries now key).headD now) := by
  have hrecent : ∀ time ∈ Limiter.recentTimes config entries now key, P time :=
    h.recentTimes now key
  cases hcounted : Limiter.recentTimes config entries now key with
  | nil => exact hnow
  | cons oldest later => exact hrecent oldest (hcounted ▸ List.mem_cons_self)

/-! ## No positive limit -/

/-- Every given key has one entry, without times, and there are no others. -/
structure OnlyKeys (seen : List String) (entries : Entries) : Prop where
  nodup : (entries.map Prod.fst).Nodup
  mem_iff : ∀ other, other ∈ entries.map Prod.fst ↔ other ∈ seen
  times_eq : ∀ entry ∈ entries, entry.2 = []

theorem onlyKeys_nil : OnlyKeys [] [] where
  nodup := List.nodup_nil
  mem_iff _ := Iff.rfl
  times_eq _ hentry := absurd hentry List.not_mem_nil

/-- There are as many entries as different keys. -/
theorem OnlyKeys.length_eq (h : OnlyKeys seen entries) : entries.length = seen.dedup.length := by
  have hperm : (entries.map Prod.fst).Perm seen.dedup :=
    (List.perm_ext_iff_of_nodup h.nodup (List.nodup_dedup seen)).mpr fun other =>
      (h.mem_iff other).trans List.mem_dedup.symm
  rw [← List.length_map (f := Prod.fst)]
  exact hperm.length_eq

/-- Without a positive limit a request is denied although none counts. -/
theorem check_of_not_pos (hlimit : config.maxRequests ≤ 0) (h : OnlyKeys seen entries)
    (now : Double) (key : String) :
    check config entries now key = (.error .noTimes, put key [] entries) := by
  have htimes : times entries key = [] := forall_times (P := (· = [])) rfl h.times_eq key
  have hrecent : recentTimes config entries now key = [] := by
    rw [recentTimes, htimes, List.filter_nil]
  simp only [check, hrecent, List.length_nil, Nat.cast_zero, if_pos hlimit, deny]

theorem mem_put {recent : List Double} {entry : String × List Double}
    (h : entry ∈ put key recent entries) : entry = (key, recent) ∨ entry ∈ entries := by
  induction entries with
  | nil => exact Or.inl (List.mem_singleton.mp h)
  | cons first entries ih =>
    rw [put] at h
    split at h
    · exact (List.mem_cons.mp h).imp_right (List.mem_cons_of_mem _)
    · rcases List.mem_cons.mp h with rfl | hmem
      · exact Or.inr List.mem_cons_self
      · exact (ih hmem).imp_right (List.mem_cons_of_mem _)

/-- A key that is put without times is one of the keys from then on. -/
theorem OnlyKeys.put (h : OnlyKeys seen entries) (key : String) :
    OnlyKeys (seen ++ [key]) (put key [] entries) := by
  have htimes : ∀ entry ∈ Limiter.put key [] entries, entry.2 = [] := fun entry hentry => by
    rcases mem_put hentry with rfl | hmem
    · rfl
    · exact h.times_eq entry hmem
  by_cases hkey : key ∈ entries.map Prod.fst
  · refine ⟨(keys_put_of_mem hkey).symm ▸ h.nodup, fun other => ?_, htimes⟩
    rw [keys_put_of_mem hkey, h.mem_iff, List.mem_append, List.mem_singleton]
    refine ⟨Or.inl, fun hor => hor.elim id ?_⟩
    rintro rfl
    exact (h.mem_iff _).mp hkey
  · have hkeys : (Limiter.put key [] entries).map Prod.fst = entries.map Prod.fst ++ [key] := by
      rw [put_of_notMem hkey, List.map_append, List.map_singleton]
    refine ⟨?_, fun other => ?_, htimes⟩
    · rw [hkeys, ← List.concat_eq_append]
      exact h.nodup.concat hkey
    · rw [hkeys, List.mem_append, List.mem_append, h.mem_iff]

/-- Without a positive limit every key that was checked stays. -/
theorem OnlyKeys.run (h : OnlyKeys seen entries) (hlimit : config.maxRequests ≤ 0)
    (requests : List (Double × String)) :
    OnlyKeys (seen ++ requests.map Prod.snd) (Limiter.run config entries requests).2 := by
  induction requests generalizing seen entries with
  | nil => rwa [List.map_nil, List.append_nil]
  | cons request requests ih =>
    rw [run_cons, check_of_not_pos hlimit h, List.map_cons, List.append_cons]
    exact ih (h.put request.2)

/-! ## New limiters -/

/-- **Which checks are answered.**  With a positive limit a check is answered exactly if the oldest
request that counts, or the present one if none does, leaves the window at a finite time, so always
if every request does, and there are never more keys than allowed.  Without a positive limit no
check is answered, and there are as many keys as were ever checked. -/
theorem check_answered (config : Config) (requests : List (Double × String)) (now : Double)
    (key : String) :
    let entries := (run config [] requests).2
    let answer := (check config entries now key).1
    let kept := (check config entries now key).2
    (1 ≤ config.maxRequests →
      ((∃ decision, answer = .ok decision) ↔
        (((recentTimes config entries now key).headD now).add config.window).isFinite = true) ∧
      ((∀ request ∈ requests ++ [(now, key)], (request.1.add config.window).isFinite = true) →
        ∃ decision, answer = .ok decision) ∧
      (kept.length : Int) ≤ max config.maxKeys 0) ∧
    (config.maxRequests ≤ 0 →
      answer = .error .noTimes ∧
      kept.length = (requests.map Prod.snd ++ [key]).dedup.length) := by
  intro entries answer kept
  refine ⟨fun hlimit => ⟨exists_decision_iff hlimit, fun hfinite => ?_, ?_⟩, fun hlimit => ?_⟩
  · have hall : AllTimes (fun time => (time.add config.window).isFinite = true) entries :=
      (allTimes_nil _).run hlimit fun request hmem =>
        hfinite request (List.mem_append_left _ hmem)
    have hnow : (now.add config.window).isFinite = true :=
      hfinite (now, key) (List.mem_append_right _ List.mem_cons_self)
    exact (exists_decision_iff hlimit).mpr (hall.oldest hnow config key)
  · exact (((fits_nil config).run hlimit requests).check hlimit now key).length_le
  · have honly : OnlyKeys (requests.map Prod.snd) entries := onlyKeys_nil.run hlimit requests
    have hcheck := check_of_not_pos hlimit honly now key
    refine ⟨congrArg Prod.fst hcheck, ?_⟩
    show (check config entries now key).2.length = _
    rw [hcheck]
    exact (honly.put key).length_eq

/-- Two requests a minute: the third request is answered, with a denial. -/
theorem check_answered_third :
    ∃ decision, (check ⟨2, .ofInt 60, 1⟩
      (run ⟨2, .ofInt 60, 1⟩ [] [(.ofInt 0, "a"), (.ofInt 1, "a")]).2 (.ofInt 2) "a").1 =
        .ok decision :=
  ((check_answered ⟨2, .ofInt 60, 1⟩ [(.ofInt 0, "a"), (.ofInt 1, "a")] (.ofInt 2) "a").1
    (by decide)).2.1 (by decide +kernel)

/-- A limit of zero and room for one key: neither of two requests is answered, and both keys
stay. -/
theorem not_answered_zeroLimit :
    (¬ ∃ decision, (check ⟨0, .ofInt 60, 1⟩ [] (.ofInt 0) "a").1 = .ok decision) ∧
      (run ⟨0, .ofInt 60, 1⟩ [] [(.ofInt 0, "a")]).2 = [("a", [])] ∧
      (¬ ∃ decision, (check ⟨0, .ofInt 60, 1⟩ [("a", [])] (.ofInt 1) "b").1 = .ok decision) ∧
      ¬ ((check ⟨0, .ofInt 60, 1⟩ [("a", [])] (.ofInt 1) "b").2.length : Int) ≤ max 1 0 := by
  have hfirst : (check ⟨0, .ofInt 60, 1⟩ [] (.ofInt 0) "a").1 = .error .noTimes := by
    decide +kernel
  have hsecond : (check ⟨0, .ofInt 60, 1⟩ [("a", [])] (.ofInt 1) "b").1 = .error .noTimes := by
    decide +kernel
  refine ⟨?_, by decide +kernel, ?_, by decide +kernel⟩
  · rw [hfirst]
    rintro ⟨decision, ⟨⟩⟩
  · rw [hsecond]
    rintro ⟨decision, ⟨⟩⟩

end Limiter

end TapeMeasure
