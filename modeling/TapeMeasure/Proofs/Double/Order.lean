import TapeMeasure.Proofs.Double.Rounding

/-!
# Differences keep the order

A difference is an exact count of units that is rounded once, and rounding keeps the order, so a
later time minus a fixed one is no smaller.  Nothing is known of what is not a number.

* `lt_of_le_of_lt`: the two orders together.
* `ofUnits_mono`: rounding a count of units keeps the order.
* `lt_sub_of_le`: what lies below a bound at a time does so at every earlier time.
* `lt_sub_of_ge`, `le_sub_of_le`: counted from a later time less has passed, and from an earlier
  one more.
* `le_of_lt_eq_false`, `sub_ne_nan`: at a finite time the two orders decide between them how long
  ago something was.
-/

namespace TapeMeasure

namespace Double

theorem lt_of_le_of_lt {x y z : Double} (hxy : le x y = true) (hyz : lt y z = true) :
    lt x z = true := by
  cases x <;> cases y <;> cases z <;> simp_all [le, lt]
  omega

theorem le_trans {x y z : Double} (hxy : le x y = true) (hyz : le y z = true) :
    le x z = true := by
  cases x <;> cases y <;> cases z <;> simp_all [le]
  · omega
  · rcases hyz with rfl | rfl <;> simp_all

theorem lt_eq_false_of_le {x y : Double} (h : le x y = true) : lt y x = false := by
  cases x <;> cases y <;> simp_all [le, lt]
  rcases h with rfl | rfl <;> simp

@[simp] theorem nan_lt (x : Double) : lt .nan x = false := by
  cases x <;> rfl

/-- Nothing is greater than positive infinity. -/
@[simp] theorem infinite_lt (x : Double) : lt (.infinite false) x = false := by
  cases x <;> rfl

/-- Negative infinity is less than what something is less than. -/
theorem negInfinite_lt {x y : Double} (h : lt x y = true) : lt (.infinite true) y = true := by
  cases x <;> cases y <;> simp_all [lt]

theorem eq_of_infinite_le {x : Double} (h : le (.infinite false) x = true) :
    x = .infinite false := by
  rcases x with _ | (_ | _) | _ <;> first | rfl | cases h

theorem eq_of_le_negInfinite {x : Double} (h : le x (.infinite true) = true) :
    x = .infinite true := by
  rcases x with _ | (_ | _) | _ <;> first | rfl | cases h

/-! ## Rounded counts of units -/

/-- Without a sign, a larger magnitude is a larger number. -/
theorem le_ofMagnitude {m n : Nat} (h : m ≤ n) :
    le (ofMagnitude false m) (ofMagnitude false n) = true := by
  rw [ofMagnitude, ofMagnitude]
  by_cases hn : n < unitsLimit
  · rw [if_pos hn, if_pos (h.trans_lt hn)]
    exact decide_eq_true (Int.ofNat_le.mpr h)
  · rw [if_neg hn]
    split <;> rfl

/-- With a minus sign, a larger magnitude is a smaller number. -/
theorem le_ofMagnitude_neg {m n : Nat} (h : m ≤ n) :
    le (ofMagnitude true n) (ofMagnitude true m) = true := by
  rw [ofMagnitude, ofMagnitude]
  by_cases hn : n < unitsLimit
  · rw [if_pos hn, if_pos (h.trans_lt hn)]
    exact decide_eq_true (Int.neg_le_neg (Int.ofNat_le.mpr h))
  · rw [if_neg hn]
    split <;> rfl

theorem le_ofMagnitude_of_neg (m n : Nat) :
    le (ofMagnitude true m) (ofMagnitude false n) = true := by
  rw [ofMagnitude, ofMagnitude]
  split
  · split
    · exact decide_eq_true ((Int.neg_nonpos_of_nonneg (Int.natCast_nonneg m)).trans
        (Int.natCast_nonneg n))
    · rfl
  · split <;> rfl

/-- Rounding a count of units keeps the order. -/
theorem ofUnits_mono {a b : Int} (h : a ≤ b) : le (ofUnits a) (ofUnits b) = true := by
  have hround : ∀ {m n : Nat}, m ≤ n → roundUnits m 1 ≤ roundUnits n 1 := fun {m n} hmn =>
    roundUnits_mono Nat.one_pos Nat.one_pos (Nat.mul_le_mul_right 1 hmn)
  rw [ofUnits, ofUnits]
  by_cases ha : a < 0
  · rw [decide_eq_true ha]
    by_cases hb : b < 0
    · rw [decide_eq_true hb]
      exact le_ofMagnitude_neg (hround (by omega))
    · rw [decide_eq_false hb]
      exact le_ofMagnitude_of_neg _ _
  · rw [decide_eq_false ha, decide_eq_false (by omega)]
    exact le_ofMagnitude (hround (by omega))

theorem ofUnits_zero : ofUnits 0 = .finite false 0 := by
  have hround : roundUnits 0 1 = 0 := roundUnits_one_of_lt (Nat.two_pow_pos 53)
  show ofMagnitude false (roundUnits 0 1) = .finite false 0
  rw [hround, ofMagnitude, if_pos unitsLimit_pos]

/-! ## Differences -/

/-- Whichever zero a sum is, it lies below the same numbers. -/
theorem lt_addFinite (s t : Bool) (a b : Nat) (w : Double) :
    lt (addFinite s a t b) w = lt (ofUnits (signedUnits s a + signedUnits t b)) w := by
  rw [addFinite]
  split
  · rename_i hzero
    obtain ⟨rfl, rfl, rfl, rfl⟩ := hzero
    rw [show signedUnits true 0 + signedUnits true 0 = 0 from rfl, ofUnits_zero]
    cases w <;> rfl
  · rfl

/-- What lies below a bound at a time, counted from a fixed one, did so at every earlier time. -/
theorem lt_sub_of_le {a b s w : Double} (hab : le a b = true) (h : lt (b.sub s) w = true) :
    lt (a.sub s) w = true := by
  cases s with
  | nan => cases b <;> simp [sub, neg, add] at h
  | infinite t =>
    rcases a with ⟨q, m⟩ | (_ | _) | _ <;> rcases b with ⟨r, v⟩ | (_ | _) | _ <;> cases t <;>
      simp_all [le, sub, neg, add]
  | finite t u =>
    rcases b with ⟨r, v⟩ | (_ | _) | _
    · rcases a with ⟨q, m⟩ | (_ | _) | _
      · have hunits : signedUnits q m ≤ signedUnits r v := of_decide_eq_true hab
        have hb : lt (addFinite r v (!t) u) w = true := h
        show lt (addFinite q m (!t) u) w = true
        rw [lt_addFinite] at hb ⊢
        exact lt_of_le_of_lt (ofUnits_mono (Int.add_le_add_right hunits _)) hb
      · cases hab
      · exact negInfinite_lt h
      · cases hab
    · simp [sub, neg, add] at h
    · rcases a with ⟨q, m⟩ | (_ | _) | _
      · cases hab
      · cases hab
      · exact h
      · cases hab
    · simp [sub, add] at h

/-! ## Counted from other times -/

theorem signedUnits_not (negative : Bool) (units : Nat) :
    signedUnits (!negative) units = -signedUnits negative units := by
  cases negative
  · rfl
  · exact (neg_neg (units : Int)).symm

/-- Whichever zero a sum is, the same numbers are at most it. -/
theorem le_addFinite (s t : Bool) (a b : Nat) (w : Double) :
    le w (addFinite s a t b) = le w (ofUnits (signedUnits s a + signedUnits t b)) := by
  rw [addFinite]
  split
  · rename_i hzero
    obtain ⟨rfl, rfl, rfl, rfl⟩ := hzero
    rw [show signedUnits true 0 + signedUnits true 0 = 0 from rfl, ofUnits_zero]
    cases w <;> rfl
  · rfl

/-- What lies below a bound, counted from a time, does so counted from every later time. -/
theorem lt_sub_of_ge {a s t w : Double} (hst : le s t = true) (h : lt (a.sub s) w = true) :
    lt (a.sub t) w = true := by
  cases a with
  | nan => simp [sub, add] at h
  | infinite q =>
    rcases s with ⟨r, v⟩ | (_ | _) | _ <;> rcases t with ⟨r', v'⟩ | (_ | _) | _ <;> cases q <;>
      simp_all [le, sub, neg, add]
  | finite q m =>
    rcases s with ⟨r, v⟩ | (_ | _) | _
    · rcases t with ⟨r', v'⟩ | (_ | _) | _
      · have hunits : signedUnits r v ≤ signedUnits r' v' := of_decide_eq_true hst
        have hs : lt (addFinite q m (!r) v) w = true := h
        show lt (addFinite q m (!r') v') w = true
        rw [lt_addFinite] at hs ⊢
        refine lt_of_le_of_lt (ofUnits_mono ?_) hs
        rw [signedUnits_not, signedUnits_not]
        omega
      · exact negInfinite_lt h
      · cases hst
      · cases hst
    · rwa [eq_of_infinite_le hst]
    · simp [sub, neg, add] at h
    · simp [sub, neg, add] at h

/-- What reaches a bound, counted from a time that has passed, does so counted from every earlier
time. -/
theorem le_sub_of_le {a s t w : Double} (hst : le s t = true) (hta : le t a = true)
    (h : le w (a.sub t) = true) : le w (a.sub s) = true := by
  rcases a with ⟨q, m⟩ | (_ | _) | _
  · rcases t with ⟨r', v'⟩ | (_ | _) | _
    · rcases s with ⟨r, v⟩ | (_ | _) | _
      · have hunits : signedUnits r v ≤ signedUnits r' v' := of_decide_eq_true hst
        have ht : le w (addFinite q m (!r') v') = true := h
        show le w (addFinite q m (!r) v) = true
        rw [le_addFinite] at ht ⊢
        refine le_trans ht (ofUnits_mono ?_)
        rw [signedUnits_not, signedUnits_not]
        omega
      · cases hst
      · cases w <;> simp_all [le, sub, neg, add]
      · cases hst
    · cases hta
    · rwa [eq_of_le_negInfinite hst]
    · cases hta
  · rcases s with ⟨r, v⟩ | (_ | _) | _ <;> rcases t with ⟨r', v'⟩ | (_ | _) | _ <;>
      cases w <;> simp_all [le, sub, neg, add]
  · rcases s with ⟨r, v⟩ | (_ | _) | _ <;> rcases t with ⟨r', v'⟩ | (_ | _) | _ <;>
      cases w <;> simp_all [le, sub, neg, add]
  · cases t <;> cases hta

/-! ## Differences that are numbers -/

/-- Of two numbers one is less, or the other is at most as large. -/
theorem le_of_lt_eq_false {x y : Double} (hx : x ≠ .nan) (hy : y ≠ .nan) (h : lt x y = false) :
    le y x = true := by
  rcases x with ⟨q, m⟩ | (_ | _) | _ <;> rcases y with ⟨r, v⟩ | (_ | _) | _ <;> simp_all [le, lt]

/-- A time that has passed at a finite one has passed for some number of seconds. -/
theorem sub_ne_nan {a t : Double} (ha : a.isFinite = true) (hta : le t a = true) :
    a.sub t ≠ .nan := by
  rcases a with ⟨q, m⟩ | _ | _
  · rcases t with ⟨r, v⟩ | (_ | _) | _
    · show addFinite q m (!r) v ≠ .nan
      rw [addFinite]
      split
      · exact Double.noConfusion
      · rw [ofUnits, ofMagnitude]
        split <;> exact Double.noConfusion
    · cases hta
    · exact Double.noConfusion
    · cases hta
  · cases ha
  · cases ha

/-- No time passes from a finite one to itself. -/
theorem lt_sub_self {a w : Double} (ha : a.isFinite = true) (hw : lt zero w = true) :
    lt (a.sub a) w = true := by
  rcases a with ⟨q, m⟩ | _ | _
  · show lt (addFinite q m (!q) m) w = true
    rw [lt_addFinite, signedUnits_not, Int.add_right_neg, ofUnits_zero]
    exact hw
  · cases ha
  · cases ha

/-- Only at a finite time does something lie a bounded time back that is finite itself. -/
theorem isFinite_of_lt_sub {a t w : Double} (ht : t.isFinite = true) (hta : le t a = true)
    (h : lt (a.sub t) w = true) : a.isFinite = true := by
  rcases t with ⟨r, v⟩ | _ | _
  · rcases a with ⟨q, m⟩ | (_ | _) | _
    · rfl
    · rw [show (infinite false).sub (finite r v) = infinite false from rfl, infinite_lt] at h
      cases h
    · cases hta
    · cases hta
  · cases ht
  · cases ht

end Double

end TapeMeasure
