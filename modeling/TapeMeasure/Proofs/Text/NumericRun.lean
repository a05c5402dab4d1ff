import TapeMeasure.Text.NumericRun

/-!
# Taking numeric runs apart

* `numericRuns_append_cons`: a run ends at the first character that cannot stand in a number.
* `hasShortNumbers_run`, `hasShortNumbers_append_cons`: whether all numbers are short is decided run
  by run.
-/

namespace TapeMeasure.Text

theorem numericRuns_of_forall {cs : List Char} (h : ∀ c ∈ cs, isNumeric c = true) :
    numericRuns cs = [cs] := by
  induction cs with
  | nil => rfl
  | cons c cs ih =>
    have hcs := ih fun d hd => h d (List.mem_cons_of_mem c hd)
    simp only [numericRuns, hcs, h c List.mem_cons_self, if_true]

/-- A character that cannot stand in a number ends the run before it. -/
theorem numericRuns_append_cons {c : Char} (hc : isNumeric c = false) (cs ds : List Char) :
    numericRuns (cs ++ c :: ds) = numericRuns cs ++ numericRuns ds := by
  induction cs with
  | nil =>
    obtain ⟨first, runs, hds⟩ := List.exists_cons_of_ne_nil (numericRuns_ne_nil ds)
    rw [List.nil_append]
    simp only [numericRuns, hds, hc, Bool.false_eq_true, if_false, List.singleton_append]
  | cons d cs ih =>
    obtain ⟨first, runs, hcs⟩ := List.exists_cons_of_ne_nil (numericRuns_ne_nil cs)
    rw [List.cons_append]
    simp only [numericRuns, ih, hcs, List.cons_append]
    split <;> rfl

variable {limit : Nat}

theorem hasShortNumbers_run {run : List Char} (hrun : ∀ d ∈ run, isNumeric d = true) :
    HasShortNumbers limit run ↔ run.countP Char.isDigit ≤ limit := by
  rw [HasShortNumbers, numericRuns_of_forall hrun]
  simp only [List.mem_singleton, forall_eq]

theorem hasShortNumbers_nil : HasShortNumbers limit [] :=
  (hasShortNumbers_run fun _ hd => absurd hd List.not_mem_nil).mpr (Nat.zero_le limit)

theorem hasShortNumbers_append_cons {c : Char} (hc : isNumeric c = false) (cs ds : List Char) :
    HasShortNumbers limit (cs ++ c :: ds) ↔
      HasShortNumbers limit cs ∧ HasShortNumbers limit ds := by
  rw [HasShortNumbers, numericRuns_append_cons hc]
  exact List.forall_mem_append

/-- A character that cannot stand in a number has no part in any. -/
theorem hasShortNumbers_cons {c : Char} (cs : List Char) (hc : isNumeric c = false) :
    HasShortNumbers limit (c :: cs) ↔ HasShortNumbers limit cs :=
  (hasShortNumbers_append_cons hc [] cs).trans (and_iff_right hasShortNumbers_nil)

end TapeMeasure.Text
