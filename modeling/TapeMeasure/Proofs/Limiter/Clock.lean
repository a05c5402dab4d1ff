import TapeMeasure.Proofs.Double.Finite
import TapeMeasure.Proofs.Limiter.Shape

/-!
# Clocks at which every check is answered

A check has no answer if the oldest request that counts leaves the window at no finite time, and a
wait can be infinite where the clock is below zero.  With a positive limit, neither happens as long
as the clock is at least zero and every request leaves the window at a finite time.

* `IsRegular`: such a time of the clock.
* `isAnswered_verdict`: the answer to one check.
* `isAnswered_of_mem_run`: the answers to all checks of a run.
-/

namespace TapeMeasure

namespace Limiter

variable {config : Config} {entries : Entries} {now : Double} {requests : List (Double × String)}

/-- A time that is not below zero, from which the window has a finite end. -/
structure IsRegular (window time : Double) : Prop where
  zero_le : Double.le .zero time = true
  isFinite_add : (time.add window).isFinite = true

instance (window time : Double) : Decidable (IsRegular window time) :=
  decidable_of_iff (Double.le .zero time = true ∧ (time.add window).isFinite = true)
    ⟨fun h => ⟨h.1, h.2⟩, fun h => ⟨h.1, h.2⟩⟩

/-- There is an answer with a finite wait. -/
def IsAnswered (answer : Except Fault Decision) : Prop :=
  ∃ decision, answer = .ok decision ∧ decision.retryAfter.isFinite = true

theorem exists_resetAt {oldest : Double} (h : (oldest.add config.window).isFinite = true) :
    ∃ reset, resetAt config oldest = .ok reset := by
  obtain ⟨reset, hreset⟩ := Double.exists_truncate_iff.mpr h
  exact ⟨reset, by rw [resetAt, hreset]⟩

theorem isFinite_of_resetAt {oldest : Double} {reset : Int}
    (h : resetAt config oldest = .ok reset) : (oldest.add config.window).isFinite = true := by
  rw [resetAt] at h
  split at h
  · rename_i seconds hseconds
    exact Double.exists_truncate_iff.mp ⟨seconds, hseconds⟩
  · cases h

theorem isAnswered_verdict (hlimit : 1 ≤ config.maxRequests) (hnow : IsRegular config.window now)
    {recent : List Double} (hrecent : ∀ time ∈ recent, (time.add config.window).isFinite = true) :
    IsAnswered (verdict config now recent) := by
  rw [verdict]
  split
  · rename_i hdenied
    cases recent with
    | nil =>
      rw [List.length_nil] at hdenied
      omega
    | cons oldest later =>
      have holdest := hrecent oldest List.mem_cons_self
      obtain ⟨reset, hreset⟩ := exists_resetAt holdest
      refine ⟨_, by rw [deny, hreset]; rfl, ?_⟩
      exact Double.isFinite_positivePart_sub holdest (Double.isFinite_of_add hnow.isFinite_add).1
        hnow.zero_le
  · cases recent with
    | nil =>
      obtain ⟨reset, hreset⟩ := exists_resetAt hnow.isFinite_add
      exact ⟨_, by rw [List.nil_append, allow, hreset]; rfl, rfl⟩
    | cons oldest later =>
      obtain ⟨reset, hreset⟩ := exists_resetAt (hrecent oldest List.mem_cons_self)
      exact ⟨_, by rw [List.cons_append, allow, hreset]; rfl, rfl⟩

/-- At a regular clock every check of a run is answered. -/
theorem isAnswered_of_mem_run (hlimit : 1 ≤ config.maxRequests)
    (hentries : AllTimes (fun time => (time.add config.window).isFinite = true) entries)
    (hrequests : ∀ request ∈ requests, IsRegular config.window request.1) :
    ∀ answer ∈ (run config entries requests).1, IsAnswered answer := by
  induction requests generalizing entries with
  | nil => exact fun _ hanswer => absurd hanswer List.not_mem_nil
  | cons request requests ih =>
    have hrequest := hrequests request List.mem_cons_self
    rw [run_cons]
    refine List.forall_mem_cons.mpr ⟨?_, ?_⟩
    · rw [check_fst]
      exact isAnswered_verdict hlimit hrequest (hentries.recentTimes request.1 request.2)
    · exact ih (hentries.check hlimit hrequest.isFinite_add request.2)
        fun request hmem => hrequests request (List.mem_cons_of_mem _ hmem)

end Limiter

end TapeMeasure
