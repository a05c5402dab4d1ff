import Mathlib.Data.Nat.Log
import Mathlib.Tactic.Ring
import TapeMeasure.Double

/-!
# Rounding to the bits of a double

The magnitude of a double is a quotient that is rounded to a multiple of a power of two, and the
power depends on the quotient.  A rounded quotient keeps the order as long as the divisor stays the
same, and where the power changes, the powers of two on both sides of a quotient keep it.

* `quotientHalfEven_le_iff`: how far a rounded quotient reaches; `quotientHalfEven_mono`.
* `two_pow_le_roundUnits`, `roundUnits_le_two_pow`: the powers of two on both sides.
* `roundUnits_mono`: rounding keeps the order.
* `roundUnits_roundUnits`: what was rounded is not rounded again.
* `roundUnits_lt_unitsLimit_iff`: which magnitudes are too large after rounding.
-/

namespace TapeMeasure

/-! ## Rounded quotients -/

/-- A rounded quotient is at most `k` below the half behind `k`, and at that half if `k` is even. -/
theorem quotientHalfEven_le_iff {n d k : Nat} (hd : 0 < d) :
    quotientHalfEven n d ≤ k ↔
      2 * n < (2 * k + 1) * d ∨ 2 * n = (2 * k + 1) * d ∧ k % 2 = 0 := by
  have hdiv : d * (n / d) + n % d = n := Nat.div_add_mod n d
  have hmod : n % d < d := Nat.mod_lt n hd
  have hhalf : (2 * k + 1) * d = 2 * (d * k) + d := by ring
  have hround := quotientHalfEven_eq_or n d
  rcases Nat.lt_trichotomy (n / d) k with hlt | heq | hgt
  · have hstep : d * (n / d + 1) ≤ d * k := Nat.mul_le_mul_left d hlt
    rw [Nat.mul_succ] at hstep
    omega
  · rw [heq] at hdiv
    simp only [quotientHalfEven, heq]
    split
    · omega
    · split <;> omega
  · have hstep : d * (k + 1) ≤ d * (n / d) := Nat.mul_le_mul_left d hgt
    rw [Nat.mul_succ] at hstep
    omega

/-- A larger quotient is rounded to a larger number, or to the same one. -/
theorem quotientHalfEven_mono {n d n' d' : Nat} (hd : 0 < d) (hd' : 0 < d')
    (h : n * d' ≤ n' * d) : quotientHalfEven n d ≤ quotientHalfEven n' d' := by
  generalize hk : quotientHalfEven n' d' = k
  have hreach := (quotientHalfEven_le_iff hd').mp hk.le
  have hcross : 2 * n * d' ≤ 2 * n' * d := by
    rw [Nat.mul_assoc, Nat.mul_assoc]
    exact Nat.mul_le_mul_left 2 h
  have hswap : (2 * k + 1) * d' * d = (2 * k + 1) * d * d' := by ring
  rw [quotientHalfEven_le_iff hd]
  rcases hreach with hlt | ⟨heq, heven⟩
  · left
    refine Nat.lt_of_mul_lt_mul_right (a := d') ?_
    calc
      2 * n * d' ≤ 2 * n' * d := hcross
      _ < (2 * k + 1) * d' * d := Nat.mul_lt_mul_of_pos_right hlt hd
      _ = (2 * k + 1) * d * d' := hswap
  · have hle : 2 * n ≤ (2 * k + 1) * d := by
      refine Nat.le_of_mul_le_mul_right (c := d') ?_ hd'
      rw [← hswap, ← heq]
      exact hcross
    rcases hle.lt_or_eq with hlt | heq'
    · exact Or.inl hlt
    · exact Or.inr ⟨heq', heven⟩

namespace Double

variable {n d : Nat}

/-! ## Rounded magnitudes -/

theorem roundUnits_eq (n d : Nat) :
    roundUnits n d =
      quotientHalfEven n (d * 2 ^ excessBits (n / d)) * 2 ^ excessBits (n / d) := rfl

theorem excessBits_le_log2 (units : Nat) : excessBits units ≤ Nat.log2 units :=
  Nat.sub_le _ _

/-- A power of two with at most as many bits as the step is a multiple of the step. -/
theorem two_pow_eq_mul_step {e s : Nat} (h : s ≤ e) : 2 ^ e = 2 ^ (e - s) * 2 ^ s := by
  rw [← pow_add, Nat.sub_add_cancel h]

/-- The power of two below a quotient is not rounded down. -/
theorem two_pow_le_roundUnits (hd : 0 < d) (h : n / d ≠ 0) :
    2 ^ Nat.log2 (n / d) ≤ roundUnits n d := by
  have hbits := excessBits_le_log2 (n / d)
  have hlog : 2 ^ Nat.log2 (n / d) ≤ n / d := Nat.log2_self_le h
  have hn : 2 ^ Nat.log2 (n / d) * d ≤ n := (Nat.le_div_iff_mul_le hd).mp hlog
  rw [roundUnits_eq]
  generalize Nat.log2 (n / d) = e at *
  generalize excessBits (n / d) = s at *
  have hstep : 0 < d * 2 ^ s := Nat.mul_pos hd (Nat.two_pow_pos s)
  have hmono : quotientHalfEven (2 ^ (e - s) * (d * 2 ^ s)) (d * 2 ^ s) ≤
      quotientHalfEven n (d * 2 ^ s) := by
    refine quotientHalfEven_mono hstep hstep (Nat.mul_le_mul_right _ ?_)
    calc
      2 ^ (e - s) * (d * 2 ^ s) = 2 ^ (e - s) * 2 ^ s * d := by ring
      _ = 2 ^ e * d := by rw [← two_pow_eq_mul_step hbits]
      _ ≤ n := hn
  rw [quotientHalfEven_mul_right _ hstep] at hmono
  rw [two_pow_eq_mul_step hbits]
  exact Nat.mul_le_mul_right _ hmono

/-- The power of two above a quotient is not exceeded. -/
theorem roundUnits_le_two_pow (hd : 0 < d) : roundUnits n d ≤ 2 ^ (Nat.log2 (n / d) + 1) := by
  have hbits : excessBits (n / d) ≤ Nat.log2 (n / d) + 1 :=
    (excessBits_le_log2 (n / d)).trans (Nat.le_succ _)
  have hlog : n / d < 2 ^ (Nat.log2 (n / d) + 1) := Nat.lt_log2_self
  have hn : n < 2 ^ (Nat.log2 (n / d) + 1) * d := (Nat.div_lt_iff_lt_mul hd).mp hlog
  rw [roundUnits_eq]
  generalize Nat.log2 (n / d) + 1 = e at *
  generalize excessBits (n / d) = s at *
  have hstep : 0 < d * 2 ^ s := Nat.mul_pos hd (Nat.two_pow_pos s)
  have hmono : quotientHalfEven n (d * 2 ^ s) ≤
      quotientHalfEven (2 ^ (e - s) * (d * 2 ^ s)) (d * 2 ^ s) := by
    refine quotientHalfEven_mono hstep hstep (Nat.mul_le_mul_right _ ?_)
    calc
      n ≤ 2 ^ e * d := hn.le
      _ = 2 ^ (e - s) * 2 ^ s * d := by rw [← two_pow_eq_mul_step hbits]
      _ = 2 ^ (e - s) * (d * 2 ^ s) := by ring
  rw [quotientHalfEven_mul_right _ hstep] at hmono
  rw [two_pow_eq_mul_step hbits]
  exact Nat.mul_le_mul_right _ hmono

/-- A larger magnitude is rounded to a larger one, or to the same. -/
theorem roundUnits_mono {n' d' : Nat} (hd : 0 < d) (hd' : 0 < d') (h : n * d' ≤ n' * d) :
    roundUnits n d ≤ roundUnits n' d' := by
  have hquotient : n / d ≤ n' / d' := by
    rw [Nat.le_div_iff_mul_le hd']
    refine Nat.le_of_mul_le_mul_right (c := d) ?_ hd
    calc
      n / d * d' * d = n / d * d * d' := by ring
      _ ≤ n * d' := Nat.mul_le_mul_right _ (Nat.div_mul_le_self n d)
      _ ≤ n' * d := h
  have hlog : Nat.log2 (n / d) ≤ Nat.log2 (n' / d') := by
    rw [Nat.log2_eq_log_two, Nat.log2_eq_log_two]
    exact Nat.log_mono_right hquotient
  by_cases hsame : excessBits (n / d) = excessBits (n' / d')
  · rw [roundUnits_eq, roundUnits_eq, hsame]
    generalize excessBits (n' / d') = s
    refine Nat.mul_le_mul_right _ (quotientHalfEven_mono ?_ ?_ ?_)
    · exact Nat.mul_pos hd (Nat.two_pow_pos s)
    · exact Nat.mul_pos hd' (Nat.two_pow_pos s)
    · calc
        n * (d' * 2 ^ s) = n * d' * 2 ^ s := by ring
        _ ≤ n' * d * 2 ^ s := Nat.mul_le_mul_right _ h
        _ = n' * (d * 2 ^ s) := by ring
  · -- the step changes only from one power of two to the next, and these are not crossed
    have hlt : Nat.log2 (n / d) < Nat.log2 (n' / d') := by
      simp only [excessBits] at hsame
      omega
    have hne : n' / d' ≠ 0 := by
      intro hzero
      rw [hzero] at hlt
      exact Nat.not_lt_zero _ hlt
    calc
      roundUnits n d ≤ 2 ^ (Nat.log2 (n / d) + 1) := roundUnits_le_two_pow hd
      _ ≤ 2 ^ Nat.log2 (n' / d') := Nat.pow_le_pow_right (by decide) hlt
      _ ≤ roundUnits n' d' := two_pow_le_roundUnits hd' hne

/-! ## Exact magnitudes -/

/-- A multiple of its own step is exact. -/
theorem roundUnits_one_of_dvd {units : Nat} (h : 2 ^ excessBits units ∣ units) :
    roundUnits units 1 = units := by
  obtain ⟨count, hcount⟩ := h
  have hdiv : units / 1 = units := Nat.div_one units
  rw [roundUnits_eq, hdiv]
  generalize excessBits units = s at *
  have hexact : units = count * (1 * 2 ^ s) := by rw [hcount, one_mul, Nat.mul_comm]
  rw [hexact, quotientHalfEven_mul_right _ (by rw [one_mul]; exact Nat.two_pow_pos s), one_mul]

/-- A rounded magnitude is exact. -/
theorem roundUnits_roundUnits (hd : 0 < d) : roundUnits (roundUnits n d) 1 = roundUnits n d := by
  have hle : roundUnits n d ≤ 2 ^ (Nat.log2 (n / d) + 1) := roundUnits_le_two_pow hd
  have hstep : 2 ^ excessBits (n / d) ∣ roundUnits n d := by
    rw [roundUnits_eq]
    exact Nat.dvd_mul_left _ _
  refine roundUnits_one_of_dvd ?_
  generalize roundUnits n d = r at *
  rcases hle.eq_or_lt with rfl | hlt
  · -- the next power of two is a multiple of every smaller one
    refine Nat.pow_dvd_pow 2 ?_
    rw [excessBits, Nat.log2_two_pow]
    exact Nat.sub_le _ _
  · by_cases hr : r = 0
    · rw [hr]
      exact Nat.dvd_zero _
    · have hlog : Nat.log2 r < Nat.log2 (n / d) + 1 := (Nat.log2_lt hr).mpr hlt
      refine (Nat.pow_dvd_pow 2 ?_).trans hstep
      rw [excessBits, excessBits]
      omega

/-! ## Magnitudes that are too large -/

/-- A magnitude reaches a power of two after rounding from half a step below the power on. -/
theorem roundUnits_lt_two_pow_iff (hd : 0 < d) (k : Nat) :
    roundUnits n d < 2 ^ (k + 54) ↔ n < (2 ^ 54 - 1) * 2 ^ k * d := by
  have hpos : 0 < 2 ^ k * d := Nat.mul_pos (Nat.two_pow_pos k) hd
  have hhigh : 2 ^ (k + 54) * d = 2 ^ 54 * (2 ^ k * d) := by ring
  have hlow : 2 ^ (k + 53) * d = 2 ^ 53 * (2 ^ k * d) := by ring
  rw [Nat.mul_assoc]
  rcases Nat.lt_trichotomy (Nat.log2 (n / d)) (k + 53) with hlt | heq | hgt
  · have hround : roundUnits n d ≤ 2 ^ (k + 53) :=
      (roundUnits_le_two_pow hd).trans (Nat.pow_le_pow_right (by decide) hlt)
    have hquotient : n / d < 2 ^ (k + 53) :=
      Nat.lt_log2_self.trans_le (Nat.pow_le_pow_right (by decide) hlt)
    have hn : n < 2 ^ (k + 53) * d := (Nat.div_lt_iff_lt_mul hd).mp hquotient
    have hless : 2 ^ (k + 53) < 2 ^ (k + 54) := Nat.pow_lt_pow_right (by decide) (by omega)
    exact iff_of_true (hround.trans_lt hless) (by omega)
  · have hbits : excessBits (n / d) = k + 1 := by
      rw [excessBits, heq]
      omega
    have hstep : 0 < d * 2 ^ (k + 1) := Nat.mul_pos hd (Nat.two_pow_pos _)
    have hpow : 2 ^ (k + 54) = 2 ^ 53 * 2 ^ (k + 1) := by ring
    have hhalf : (2 * (2 ^ 53 - 1) + 1) * (d * 2 ^ (k + 1)) = (2 ^ 54 - 1) * (2 * (2 ^ k * d)) := by
      rw [show 2 * (2 ^ 53 - 1) + 1 = 2 ^ 54 - 1 by decide]
      ring
    have hpred : quotientHalfEven n (d * 2 ^ (k + 1)) < 2 ^ 53 ↔
        quotientHalfEven n (d * 2 ^ (k + 1)) ≤ 2 ^ 53 - 1 := by omega
    rw [roundUnits_eq, hbits, hpow, Nat.mul_lt_mul_right (Nat.two_pow_pos _), hpred,
      quotientHalfEven_le_iff hstep, hhalf]
    omega
  · have hne : n / d ≠ 0 := by
      intro hzero
      rw [hzero] at hgt
      exact Nat.not_lt_zero _ hgt
    have hpow : 2 ^ (k + 54) ≤ 2 ^ Nat.log2 (n / d) := Nat.pow_le_pow_right (by decide) hgt
    have hround : 2 ^ (k + 54) ≤ roundUnits n d := hpow.trans (two_pow_le_roundUnits hd hne)
    have hn : 2 ^ (k + 54) * d ≤ n :=
      (Nat.le_div_iff_mul_le hd).mp (hpow.trans (Nat.log2_self_le hne))
    exact iff_of_false (not_lt.mpr hround) (by omega)

theorem unitsLimit_eq : unitsLimit = 2 ^ 2098 := by
  unfold unitsLimit
  -- the power is not to be computed
  generalize 2098 = e
  exact Nat.pow_eq

theorem unitsLimit_pos : 0 < unitsLimit := by
  unfold unitsLimit
  generalize 2098 = e
  exact Nat.two_pow_pos e

/-- A magnitude is too large after rounding from half a step below the limit on. -/
theorem roundUnits_lt_unitsLimit_iff (hd : 0 < d) :
    roundUnits n d < unitsLimit ↔ n < (2 ^ 54 - 1) * 2 ^ 2044 * d := by
  have hround := roundUnits_lt_two_pow_iff (n := n) hd 2044
  rwa [show 2044 + 54 = 2098 from rfl, ← unitsLimit_eq] at hround

end Double

end TapeMeasure
