import TapeMeasure.Proofs.Double.Order

/-!
# Finite sums and differences

A finite sum is an exact count of units that was rounded, and it is not rounded again.  What remains
of it when a number that is not negative is taken away is therefore no larger than it was, so it is
finite as far as it is positive.

* `exists_truncate_iff`: the finite numbers are those with a whole part.
* `isFinite_of_add`: the parts of a finite sum are finite.
* `exists_add_eq`: a finite sum has a magnitude that is exact.
* `isFinite_positivePart_sub`: what remains of a finite sum is finite.
-/

namespace TapeMeasure

namespace Double

/-- What is infinite or no number makes a sum so. -/
theorem isFinite_of_add {x y : Double} (h : (x.add y).isFinite = true) :
    x.isFinite = true ∧ y.isFinite = true := by
  obtain ⟨s, a⟩ | s | _ := x <;> obtain ⟨t, b⟩ | t | _ := y
  · exact ⟨rfl, rfl⟩
  all_goals first | cases h | (rw [add] at h; split at h <;> cases h)

/-- The finite numbers are those with a whole part. -/
theorem exists_truncate_iff {x : Double} :
    (∃ whole, x.truncate = .ok whole) ↔ x.isFinite = true := by
  cases x with
  | finite negative units => exact iff_of_true ⟨_, rfl⟩ rfl
  | infinite negative => exact iff_of_false (by simp [truncate]) Bool.false_ne_true
  | nan => exact iff_of_false (by simp [truncate]) Bool.false_ne_true

/-- The magnitude of a finite rounded count is exact and not too large. -/
theorem exists_ofUnits_eq {units : Int} (h : (ofUnits units).isFinite = true) :
    ∃ negative magnitude, ofUnits units = .finite negative magnitude ∧
      roundUnits magnitude 1 = magnitude ∧ magnitude < unitsLimit := by
  rw [ofUnits, ofMagnitude] at h ⊢
  split
  · rename_i hlt
    exact ⟨_, _, rfl, roundUnits_roundUnits Nat.one_pos, hlt⟩
  · rename_i hlt
    rw [if_neg hlt] at h
    cases h

/-- A finite sum has an exact magnitude that is not too large. -/
theorem exists_add_eq {x y : Double} (h : (x.add y).isFinite = true) :
    ∃ negative magnitude, x.add y = .finite negative magnitude ∧
      roundUnits magnitude 1 = magnitude ∧ magnitude < unitsLimit := by
  obtain ⟨hx, hy⟩ := isFinite_of_add h
  obtain ⟨s, a⟩ | _ | _ := x
  · obtain ⟨t, b⟩ | _ | _ := y
    · have hadd : (finite s a).add (finite t b) = addFinite s a t b := rfl
      rw [hadd, addFinite] at h ⊢
      split
      · exact ⟨true, 0, rfl, roundUnits_one_of_lt (Nat.two_pow_pos 53), unitsLimit_pos⟩
      · rename_i hzero
        rw [if_neg hzero] at h
        exact exists_ofUnits_eq h
    · cases hy
    · cases hy
  · cases hx
  · cases hx

theorem isFinite_positivePart {x : Double} (h : x.isFinite = true) :
    x.positivePart.isFinite = true := by
  rw [positivePart]
  split
  · exact h
  · rfl

/-- What is at most zero has no positive part. -/
theorem positivePart_of_le {x : Double} (h : le x zero = true) : x.positivePart = zero := by
  rw [positivePart, lt_eq_false_of_le h]
  rfl

/-- What remains of a finite sum when a number that is not negative is taken away is finite as far
as it is positive. -/
theorem isFinite_positivePart_sub {x y z : Double} (hsum : (x.add y).isFinite = true)
    (hz : z.isFinite = true) (hpos : le zero z = true) :
    ((x.add y).sub z).positivePart.isFinite = true := by
  obtain ⟨negative, magnitude, hadd, hexact, hlt⟩ := exists_add_eq hsum
  obtain ⟨t, v⟩ | _ | _ := z
  · have hv : 0 ≤ signedUnits t v := of_decide_eq_true hpos
    have hmagnitude : signedUnits negative magnitude ≤ magnitude := by
      cases negative
      · exact le_refl _
      · exact (Int.neg_nonpos_of_nonneg (Int.natCast_nonneg magnitude)).trans
          (Int.natCast_nonneg magnitude)
    rw [hadd]
    show (addFinite negative magnitude (!t) v).positivePart.isFinite = true
    rw [addFinite]
    split
    · rfl
    · rw [signedUnits_not]
      by_cases hle : signedUnits negative magnitude + -signedUnits t v ≤ 0
      · have hzero := ofUnits_mono hle
        rw [ofUnits_zero] at hzero
        rw [positivePart_of_le hzero]
        rfl
      · generalize hunits : signedUnits negative magnitude + -signedUnits t v = units at *
        have hround : roundUnits units.natAbs 1 ≤ magnitude := by
          rw [← hexact]
          exact roundUnits_mono Nat.one_pos Nat.one_pos (Nat.mul_le_mul_right 1 (by omega))
        refine isFinite_positivePart ?_
        rw [ofUnits, ofMagnitude, if_pos (hround.trans_lt hlt)]
        rfl
  · cases hz
  · cases hz

end Double

end TapeMeasure
