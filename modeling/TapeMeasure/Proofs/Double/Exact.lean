import Mathlib.Algebra.Order.Field.Rat
import Mathlib.Data.Rat.Floor
import Mathlib.Tactic.Linarith
import TapeMeasure.Proofs.Double.Finite
import TapeMeasure.Proofs.Double.Range

/-!
# Sums and differences that are exact

A sum or a difference is rounded, but many are not, such as those of whole numbers that are not too
large.  Where nothing is rounded, doubles are counted and compared like the rational numbers that
they stand for.

* `toRat`: the value of a finite number.
* `lt_iff_toRat`, `le_iff_toRat`: the orders are those of the values.
* `IsExactSum`, `IsExactDifference`: sums and differences that are finite and not rounded.
* `ofInt_add`, `isExactSum_ofInt`, `isExactDifference_ofInt`: those of whole numbers below `2 ^ 53`
  are exact.
* `exists_truncate_of_nonneg`: the whole part of a number is less than one below it.
-/

namespace TapeMeasure

namespace Double

variable {x y : Double} {a b : Int}

/-! ## Values -/

/-- The value of a finite number. What is not finite has none and counts as zero. -/
def toRat : Double → Rat
  | finite negative units => (signedUnits negative units : Rat) / unitsPerOne
  | _ => 0

theorem unitsPerOne_pos : 0 < unitsPerOne := by
  unfold unitsPerOne
  -- the power is not to be computed
  generalize 1074 = e
  exact Nat.two_pow_pos e

theorem cast_unitsPerOne_pos : (0 : Rat) < unitsPerOne :=
  Nat.cast_pos.mpr unitsPerOne_pos

theorem toRat_zero : toRat zero = 0 := by
  rw [zero, toRat, show signedUnits false 0 = 0 from rfl, Int.cast_zero, zero_div]

theorem lt_iff_toRat (hx : x.isFinite = true) (hy : y.isFinite = true) :
    lt x y = true ↔ x.toRat < y.toRat := by
  obtain ⟨s, m⟩ | _ | _ := x
  · obtain ⟨t, n⟩ | _ | _ := y
    · rw [toRat, toRat, div_lt_div_iff_of_pos_right cast_unitsPerOne_pos, Int.cast_lt]
      exact decide_eq_true_iff
    · cases hy
    · cases hy
  · cases hx
  · cases hx

theorem le_iff_toRat (hx : x.isFinite = true) (hy : y.isFinite = true) :
    le x y = true ↔ x.toRat ≤ y.toRat := by
  obtain ⟨s, m⟩ | _ | _ := x
  · obtain ⟨t, n⟩ | _ | _ := y
    · rw [toRat, toRat, div_le_div_iff_of_pos_right cast_unitsPerOne_pos, Int.cast_le]
      exact decide_eq_true_iff
    · cases hy
    · cases hy
  · cases hx
  · cases hx

/-- A positive number is its own positive part. -/
theorem positivePart_of_toRat_pos (hx : x.isFinite = true) (h : 0 < x.toRat) :
    x.positivePart = x := by
  rw [positivePart, if_pos ((lt_iff_toRat rfl hx).mpr (toRat_zero ▸ h))]

/-- The whole part of a number that is not negative is less than one below it. -/
theorem exists_truncate_of_nonneg (hx : x.isFinite = true) (h : 0 ≤ x.toRat) :
    ∃ whole, x.truncate = .ok whole ∧ (whole : Rat) ≤ x.toRat ∧ x.toRat < whole + 1 := by
  obtain ⟨s, m⟩ | _ | _ := x
  · refine ⟨_, rfl, ?_⟩
    rw [toRat, le_div_iff₀ cast_unitsPerOne_pos, div_lt_iff₀ cast_unitsPerOne_pos]
    have hsigned : 0 ≤ signedUnits s m := by
      rw [toRat, le_div_iff₀ cast_unitsPerOne_pos, zero_mul] at h
      exact_mod_cast h
    have hmagnitude : signedUnits s m = m ∧ signedUnits s (m / unitsPerOne) =
        ((m / unitsPerOne : Nat) : Int) := by
      cases s with
      | false => exact ⟨rfl, rfl⟩
      | true =>
        have hzero : m = 0 := by
          rw [signedUnits, if_pos rfl] at hsigned
          omega
        rw [hzero, Nat.zero_div]
        exact ⟨rfl, rfl⟩
    rw [hmagnitude.1, hmagnitude.2]
    refine ⟨?_, ?_⟩
    · exact_mod_cast Nat.div_mul_le_self m unitsPerOne
    · exact_mod_cast Nat.lt_mul_of_div_lt (Nat.lt_succ_self _) unitsPerOne_pos
  · cases hx
  · cases hx

/-! ## Exact sums and differences -/

/-- A sum is finite and not rounded. -/
structure IsExactSum (x y : Double) : Prop where
  isFinite : (x.add y).isFinite = true
  toRat_eq : (x.add y).toRat = x.toRat + y.toRat

/-- A difference is finite and not rounded. -/
structure IsExactDifference (x y : Double) : Prop where
  isFinite : (x.sub y).isFinite = true
  toRat_eq : (x.sub y).toRat = x.toRat - y.toRat

theorem isFinite_neg (x : Double) : x.neg.isFinite = x.isFinite := by
  cases x <;> rfl

theorem IsExactDifference.isFinite_left (h : IsExactDifference x y) : x.isFinite = true :=
  (isFinite_of_add h.isFinite).1

theorem IsExactDifference.isFinite_right (h : IsExactDifference x y) : y.isFinite = true :=
  (isFinite_neg y).symm.trans (isFinite_of_add h.isFinite).2

/-! ## Whole numbers -/

theorem mul_two_pow_lt {n e k : Nat} (hn : n < 2 ^ 53) (h : 53 + e ≤ k) : n * 2 ^ e < 2 ^ k := by
  calc
    n * 2 ^ e < 2 ^ 53 * 2 ^ e := Nat.mul_lt_mul_of_pos_right hn (Nat.two_pow_pos e)
    _ = 2 ^ (53 + e) := (pow_add 2 53 e).symm
    _ ≤ 2 ^ k := Nat.pow_le_pow_right (by decide) h

/-- A number with 53 significant bits is not rounded. -/
theorem roundUnits_mul_two_pow {n : Nat} (hn : n < 2 ^ 53) (e : Nat) :
    roundUnits (n * 2 ^ e) 1 = n * 2 ^ e := by
  refine roundUnits_one_of_dvd ?_
  by_cases hzero : n = 0
  · rw [hzero, Nat.zero_mul]
    exact Nat.dvd_zero _
  · refine (Nat.pow_dvd_pow 2 ?_).trans (Nat.dvd_mul_left (2 ^ e) n)
    have hlog : Nat.log2 (n * 2 ^ e) < 53 + e := by
      rw [Nat.log2_lt (Nat.mul_ne_zero hzero (Nat.two_pow_pos e).ne')]
      exact mul_two_pow_lt hn le_rfl
    rw [excessBits]
    omega

/-- A whole number below `2 ^ 53` is not too large. -/
theorem mul_unitsPerOne_lt {n : Nat} (hn : n < 2 ^ 53) : n * unitsPerOne < unitsLimit := by
  rw [unitsLimit_eq, unitsPerOne_eq]
  exact mul_two_pow_lt hn (by decide)

/-- A count of units that makes a whole number below `2 ^ 53` is exact. -/
theorem ofUnits_whole (ha : a.natAbs < 2 ^ 53) :
    ofUnits (a * unitsPerOne) = .finite (decide (a < 0)) (a.natAbs * unitsPerOne) := by
  have hsign : a * (unitsPerOne : Int) < 0 ↔ a < 0 := by
    have hunits : (0 : Int) < unitsPerOne := Nat.cast_pos.mpr unitsPerOne_pos
    rw [← mul_lt_mul_iff_left₀ (b := a) hunits, zero_mul]
  have hmagnitude : (a * (unitsPerOne : Int)).natAbs = a.natAbs * unitsPerOne := by
    rw [Int.natAbs_mul, Int.natAbs_natCast]
  have hround : roundUnits (a.natAbs * unitsPerOne) 1 = a.natAbs * unitsPerOne := by
    rw [unitsPerOne_eq]
    exact roundUnits_mul_two_pow ha 1074
  rw [ofUnits, hmagnitude, hround, ofMagnitude, if_pos (mul_unitsPerOne_lt ha),
    decide_eq_decide.mpr hsign]

theorem signedUnits_whole (a : Int) :
    signedUnits (decide (a < 0)) (a.natAbs * unitsPerOne) = a * unitsPerOne := by
  rw [signedUnits]
  split
  · rename_i hneg
    rw [Nat.cast_mul, ← neg_mul, Int.ofNat_natAbs_of_nonpos (of_decide_eq_true hneg).le, neg_neg]
  · rename_i hpos
    rw [Nat.cast_mul, Int.natAbs_of_nonneg (not_lt.mp (of_decide_eq_false (by simpa using hpos)))]

/-- A sum of units that makes a whole number below `2 ^ 53` is exact. -/
theorem addFinite_whole {s t : Bool} {m n : Nat} (ha : a.natAbs < 2 ^ 53)
    (h : signedUnits s m + signedUnits t n = a * unitsPerOne) :
    (addFinite s m t n).isFinite = true ∧ (addFinite s m t n).toRat = a := by
  have hne : (unitsPerOne : Rat) ≠ 0 := cast_unitsPerOne_pos.ne'
  rw [addFinite]
  split
  · rename_i hzero
    obtain ⟨rfl, rfl, rfl, rfl⟩ := hzero
    have hunits : (a : Rat) * unitsPerOne = 0 := by exact_mod_cast h.symm
    refine ⟨rfl, ?_⟩
    rw [(mul_eq_zero.mp hunits).resolve_right hne, toRat, show signedUnits true 0 = 0 from rfl,
      Int.cast_zero, zero_div]
  · rw [h, ofUnits_whole ha]
    refine ⟨rfl, ?_⟩
    rw [toRat, signedUnits_whole, Int.cast_mul, Int.cast_natCast, mul_div_cancel_right₀ _ hne]

theorem ofInt_eq (ha : a.natAbs < 2 ^ 53) :
    ofInt a = .finite (decide (a < 0)) (a.natAbs * unitsPerOne) :=
  ofUnits_whole ha

theorem isFinite_ofInt (ha : a.natAbs < 2 ^ 53) : (ofInt a).isFinite = true := by
  rw [ofInt_eq ha]
  rfl

theorem toRat_ofInt (ha : a.natAbs < 2 ^ 53) : (ofInt a).toRat = a := by
  rw [ofInt_eq ha, toRat, signedUnits_whole, Int.cast_mul, Int.cast_natCast,
    mul_div_cancel_right₀ _ cast_unitsPerOne_pos.ne']

/-- The sum of whole numbers below `2 ^ 53` is the number nearest to their sum. -/
theorem ofInt_add (ha : a.natAbs < 2 ^ 53) (hb : b.natAbs < 2 ^ 53) :
    (ofInt a).add (ofInt b) = ofInt (a + b) := by
  have hunits : signedUnits (decide (a < 0)) (a.natAbs * unitsPerOne) +
      signedUnits (decide (b < 0)) (b.natAbs * unitsPerOne) = (a + b) * unitsPerOne := by
    rw [signedUnits_whole, signedUnits_whole, add_mul]
  rw [ofInt_eq ha, ofInt_eq hb]
  show addFinite _ _ _ _ = ofUnits ((a + b) * unitsPerOne)
  rw [addFinite, if_neg, hunits]
  -- a negative whole number is no zero
  rintro ⟨hneg, -, hzero, -⟩
  have := of_decide_eq_true hneg
  have := (Nat.mul_eq_zero.mp hzero).resolve_right unitsPerOne_pos.ne'
  omega

theorem isExactSum_ofInt (ha : a.natAbs < 2 ^ 53) (hb : b.natAbs < 2 ^ 53)
    (hsum : (a + b).natAbs < 2 ^ 53) : IsExactSum (ofInt a) (ofInt b) where
  isFinite := by
    rw [ofInt_add ha hb]
    exact isFinite_ofInt hsum
  toRat_eq := by
    rw [ofInt_add ha hb, toRat_ofInt hsum, toRat_ofInt ha, toRat_ofInt hb, Int.cast_add]

theorem isExactDifference_ofInt (ha : a.natAbs < 2 ^ 53) (hb : b.natAbs < 2 ^ 53)
    (hdifference : (a - b).natAbs < 2 ^ 53) : IsExactDifference (ofInt a) (ofInt b) := by
  have hunits : signedUnits (decide (a < 0)) (a.natAbs * unitsPerOne) +
      signedUnits (!decide (b < 0)) (b.natAbs * unitsPerOne) = (a - b) * unitsPerOne := by
    rw [signedUnits_not, signedUnits_whole, signedUnits_whole, sub_mul, sub_eq_add_neg]
  obtain ⟨hfinite, hvalue⟩ := addFinite_whole hdifference hunits
  have hsub : (ofInt a).sub (ofInt b) = addFinite (decide (a < 0)) (a.natAbs * unitsPerOne)
      (!decide (b < 0)) (b.natAbs * unitsPerOne) := by
    rw [ofInt_eq ha, ofInt_eq hb]
    rfl
  refine ⟨hsub ▸ hfinite, ?_⟩
  rw [hsub, hvalue, toRat_ofInt ha, toRat_ofInt hb, Int.cast_sub]

end Double

end TapeMeasure
