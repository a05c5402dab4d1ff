import Mathlib.Data.Rat.Floor
import Mathlib.Tactic.Linarith
import TapeMeasure.Rounding

/-!
# The nearest whole number

`roundHalfAway` is put together from a floor of the magnitude and a sign that is given back
afterwards.  Here it is compared with what it is meant to be.

* `roundHalfAway_neg`, `roundHalfAway_of_nonneg`: the two facts that everything else rests on; a
  statement about all rationals is proved for the nonnegative ones and reflected.
* `abs_sub_roundHalfAway_le`, `roundHalfAway_eq_of_lt`: a whole number nearer than a half is the
  rounded one, and the rounded one is never farther than a half.
* `abs_sub_roundHalfAway_le_abs_sub`, `eq_or_abs_lt_roundHalfAway`: no whole number is nearer, and
  one that is equally near has the smaller magnitude.
* `roundHalfAway_mono`: the order is kept.
* `roundHalfAway_eq_zero_iff`: what is rounded to zero.
* `quotientHalfUp_eq_roundHalfAway`: the rule for dropped digits is the same one.
* `IsNearestMultiple`, `isNearestMultiple_roundHalfAway`: rounding to a multiple of a fraction.
-/

namespace TapeMeasure

/-! ## The floor of the magnitude -/

theorem rat_abs_eq (v : Rat) : v.abs = |v| := by
  rw [Rat.abs]
  split
  · rw [abs_of_nonneg (by assumption)]
  · rw [abs_of_neg (by linarith)]

theorem roundHalfAway_of_nonneg {v : Rat} (hv : 0 ≤ v) : roundHalfAway v = ⌊v + 1 / 2⌋ := by
  rw [roundHalfAway, if_neg (not_lt.mpr hv), rat_abs_eq, abs_of_nonneg hv]
  rfl

theorem roundHalfAway_of_neg {v : Rat} (hv : v < 0) : roundHalfAway v = -⌊-v + 1 / 2⌋ := by
  rw [roundHalfAway, if_pos hv, rat_abs_eq, abs_of_neg hv]
  rfl

@[simp] theorem roundHalfAway_zero : roundHalfAway 0 = 0 := by
  rw [roundHalfAway_of_nonneg le_rfl, Int.floor_eq_iff]
  norm_num

/-- Rounding does not see the sign. -/
theorem roundHalfAway_neg (v : Rat) : roundHalfAway (-v) = -roundHalfAway v := by
  rcases lt_trichotomy v 0 with hv | rfl | hv
  · rw [roundHalfAway_of_neg hv, roundHalfAway_of_nonneg (by linarith), neg_neg]
  · rw [neg_zero, roundHalfAway_zero, neg_zero]
  · rw [roundHalfAway_of_nonneg hv.le, roundHalfAway_of_neg (by linarith), neg_neg]

theorem roundHalfAway_nonneg {v : Rat} (hv : 0 ≤ v) : 0 ≤ roundHalfAway v := by
  rw [roundHalfAway_of_nonneg hv]
  exact Int.floor_nonneg.mpr (by linarith)

/-! ## The distance from the rounded number -/

/-- A nonnegative number lies less than a half above the rounded one and at most a half below. -/
theorem roundHalfAway_bounds {v : Rat} (hv : 0 ≤ v) :
    (roundHalfAway v : Rat) ≤ v + 1 / 2 ∧ v + 1 / 2 < roundHalfAway v + 1 := by
  rw [roundHalfAway_of_nonneg hv]
  exact ⟨Int.floor_le _, Int.lt_floor_add_one _⟩

/-- What is said about a number and its rounded one holds of all numbers if it holds of the
nonnegative ones and survives a change of both signs. -/
theorem roundHalfAway_induction {P : Rat → Int → Prop} (hneg : ∀ v n, P v n → P (-v) (-n))
    (hpos : ∀ v, 0 ≤ v → P v (roundHalfAway v)) (v : Rat) : P v (roundHalfAway v) := by
  rcases le_total 0 v with hv | hv
  · exact hpos v hv
  · have h := hneg _ _ (hpos (-v) (by linarith))
    rwa [roundHalfAway_neg, neg_neg, neg_neg] at h

/-- Rounding moves a number by a half at most. -/
theorem abs_sub_roundHalfAway_le (v : Rat) : |v - roundHalfAway v| ≤ 1 / 2 := by
  refine roundHalfAway_induction (P := fun v n => |v - n| ≤ 1 / 2) ?_ ?_ v
  · intro v n h
    rw [Int.cast_neg, ← neg_sub', abs_neg]
    exact h
  · intro v hv
    obtain ⟨hle, hlt⟩ := roundHalfAway_bounds hv
    rw [abs_le]
    constructor <;> linarith

/-- A whole number nearer than a half is the rounded one. -/
theorem roundHalfAway_eq_of_lt {v : Rat} {n : Int} (h : |v - n| < 1 / 2) :
    roundHalfAway v = n := by
  have hround := abs_sub_roundHalfAway_le v
  rw [abs_lt] at h
  rw [abs_le] at hround
  have hlt : (roundHalfAway v : Rat) < ((n + 1 : Int) : Rat) := by
    push_cast
    linarith
  have hgt : (n : Rat) < ((roundHalfAway v + 1 : Int) : Rat) := by
    push_cast
    linarith
  have := Int.cast_lt.mp hlt
  have := Int.cast_lt.mp hgt
  omega

/-- A whole number is not changed. -/
@[simp] theorem roundHalfAway_intCast (n : Int) : roundHalfAway n = n :=
  roundHalfAway_eq_of_lt (by rw [sub_self, abs_zero]; norm_num)

/-- No whole number is nearer than the rounded one. -/
theorem abs_sub_roundHalfAway_le_abs_sub (v : Rat) (k : Int) :
    |v - roundHalfAway v| ≤ |v - k| := by
  by_contra! hlt
  have hround := abs_sub_roundHalfAway_le v
  have hk : roundHalfAway v = k := roundHalfAway_eq_of_lt (by linarith)
  rw [hk] at hlt
  exact lt_irrefl _ hlt

/-- Of two whole numbers that are equally near, the rounded one is farther from zero. -/
theorem eq_or_abs_lt_roundHalfAway (v : Rat) :
    ∀ k : Int, |v - k| = |v - roundHalfAway v| → k = roundHalfAway v ∨ |k| < |roundHalfAway v| := by
  refine roundHalfAway_induction
    (P := fun v n => ∀ k : Int, |v - k| = |v - n| → k = n ∨ |k| < |n|) ?_ ?_ v
  · intro v n h k hk
    have hflip : |v - (-k : Int)| = |v - n| := by
      have hleft : v - (-k : Int) = -(-v - k) := by push_cast; ring
      have hright : v - n = -(-v - (-n : Int)) := by push_cast; ring
      rw [hleft, hright, abs_neg, abs_neg, hk]
    rcases h (-k) hflip with hkn | hkn
    · exact Or.inl (by omega)
    · rw [abs_neg] at hkn ⊢
      exact Or.inr hkn
  · intro v hv k hk
    obtain ⟨hle, hlt⟩ := roundHalfAway_bounds hv
    have hn := roundHalfAway_nonneg hv
    rcases abs_eq_abs.mp hk with h | h
    · exact Or.inl (Int.cast_injective (α := Rat) (by linarith))
    · -- the other number lies as far away on the other side, which can only be below
      have hbelow : ((roundHalfAway v - 1 : Int) : Rat) ≤ k := by
        push_cast
        linarith
      have habove : (k : Rat) < ((roundHalfAway v + 1 : Int) : Rat) := by
        push_cast
        linarith
      have hsum : (0 : Rat) ≤ ((k + roundHalfAway v : Int) : Rat) := by
        push_cast
        linarith
      have := Int.cast_le.mp hbelow
      have := Int.cast_lt.mp habove
      have := Int.cast_nonneg_iff.mp hsum
      rcases eq_or_ne k (roundHalfAway v) with hkn | hkn
      · exact Or.inl hkn
      · refine Or.inr ?_
        rw [abs_of_nonneg (show 0 ≤ k by omega), abs_of_nonneg hn]
        omega

/-- Rounding keeps the order. -/
theorem roundHalfAway_mono {v w : Rat} (hvw : v ≤ w) : roundHalfAway v ≤ roundHalfAway w := by
  have hpos : ∀ x y : Rat, 0 ≤ x → x ≤ y → roundHalfAway x ≤ roundHalfAway y := by
    intro x y hx hxy
    rw [roundHalfAway_of_nonneg hx, roundHalfAway_of_nonneg (hx.trans hxy)]
    exact Int.floor_mono (by linarith)
  rcases le_total 0 v with hv | hv
  · exact hpos v w hv hvw
  · rcases le_total 0 w with hw | hw
    · -- the two lie on different sides of zero
      have h := roundHalfAway_nonneg (v := -v) (by linarith)
      rw [roundHalfAway_neg] at h
      have := roundHalfAway_nonneg hw
      omega
    · have h := hpos (-w) (-v) (by linarith) (by linarith)
      rw [roundHalfAway_neg, roundHalfAway_neg] at h
      omega

/-- A value is rounded to zero exactly if it is nearer to zero than a half. -/
theorem roundHalfAway_eq_zero_iff {v : Rat} : roundHalfAway v = 0 ↔ |v| < 1 / 2 := by
  refine roundHalfAway_induction (P := fun v n => n = 0 ↔ |v| < 1 / 2) ?_ ?_ v
  · intro v n h
    rw [abs_neg, neg_eq_zero]
    exact h
  · intro v hv
    obtain ⟨-, hlt⟩ := roundHalfAway_bounds hv
    rw [abs_of_nonneg hv]
    constructor
    · intro hzero
      rw [hzero, Int.cast_zero] at hlt
      linarith
    · intro hsmall
      refine roundHalfAway_eq_of_lt ?_
      rwa [Int.cast_zero, sub_zero, abs_of_nonneg hv]

/-! ## Quotients of natural numbers -/

/-- A half of the divisor is added before the division, which takes the floor. -/
theorem quotientHalfUp_eq_roundHalfAway (n : Nat) {d : Nat} (hd : 0 < d) :
    (quotientHalfUp n d : Int) = roundHalfAway ((n : Rat) / d) := by
  have hne : (d : Rat) ≠ 0 := Nat.cast_ne_zero.mpr hd.ne'
  have hhalf : (n : Rat) / d + 1 / 2 = ((2 * n + d : Nat) : Rat) / ((2 * d : Nat) : Rat) := by
    push_cast
    field_simp
  rw [roundHalfAway_of_nonneg (div_nonneg (Nat.cast_nonneg _) (Nat.cast_nonneg _)), hhalf,
    Rat.floor_natCast_div_natCast, quotientHalfUp, Int.natCast_ediv]

/-! ## Multiples of a fraction -/

/-- No multiple of `1 / n` is nearer to `v` than `r`, and one that is equally near is nearer to
zero. -/
structure IsNearestMultiple (n : Nat) (v r : Rat) : Prop where
  exists_eq : ∃ k : Int, r = (k : Rat) / n
  abs_sub_le (k : Int) : |v - r| ≤ |v - (k : Rat) / n|
  eq_or_abs_lt (k : Int) : |v - (k : Rat) / n| = |v - r| → (k : Rat) / n = r ∨ |(k : Rat) / n| < |r|

/-- The distance from a multiple of a fraction, counted in that fraction. -/
theorem abs_sub_div_natCast (v : Rat) (k : Int) {n : Nat} (hn : 0 < n) :
    |v - (k : Rat) / n| = |v * n - k| / n := by
  have hpos : (0 : Rat) < n := Nat.cast_pos.mpr hn
  have h : v - (k : Rat) / n = (v * n - k) / n := by
    rw [sub_div, mul_div_cancel_right₀ _ hpos.ne']
  rw [h, abs_div, abs_of_pos hpos]

/-- The rounded number of fractions gives the nearest multiple. -/
theorem isNearestMultiple_roundHalfAway (v : Rat) {n : Nat} (hn : 0 < n) :
    IsNearestMultiple n v ((roundHalfAway (v * n) : Rat) / n) where
  exists_eq := ⟨_, rfl⟩
  abs_sub_le k := by
    rw [abs_sub_div_natCast v _ hn, abs_sub_div_natCast v k hn]
    exact div_le_div_of_nonneg_right (abs_sub_roundHalfAway_le_abs_sub _ k) (Nat.cast_nonneg _)
  eq_or_abs_lt k hk := by
    have hpos : (0 : Rat) < n := Nat.cast_pos.mpr hn
    rw [abs_sub_div_natCast v k hn, abs_sub_div_natCast v _ hn, div_left_inj' hpos.ne'] at hk
    rcases eq_or_abs_lt_roundHalfAway _ k hk with h | h
    · exact Or.inl (by rw [h])
    · refine Or.inr ?_
      rw [abs_div, abs_div, ← Int.cast_abs, ← Int.cast_abs, abs_of_pos hpos]
      exact div_lt_div_of_pos_right (Int.cast_lt.mpr h) hpos

end TapeMeasure
