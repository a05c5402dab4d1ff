import Mathlib.Algebra.Group.Nat.Defs
import TapeMeasure.Text.Digit

/-!
# How many digits a number has

* `length_digitsOfNat_le_iff`: a number has at most `k` digits exactly if it is below `10 ^ k`.
* `natOfDigits_lt`: a run of `k` digits writes a number below `10 ^ k`.
* `natOfDigits_replicate_append`, `natOfDigits_append_replicate`: zeros before and behind a run.
* `natOfDigits_eq_zero_iff`, `natOfDigits_lt_ten_iff`: runs of zeros, with another digit or without.
* `natOfDigits_append_inj`, `eq_of_natOfDigits_eq`: what a number says about the digits of a run.
* `head?_digitsOfNat`, `digitsOfNat_natOfDigits`: numbers are written without a superfluous zero in
  front, and what is written so is the only such run for its number.
-/

namespace TapeMeasure.Text

theorem length_digitsOfNat_pos (n : Nat) : 0 < (digitsOfNat n).length :=
  List.length_pos_iff.mpr (digitsOfNat_ne_nil n)

theorem length_digitsOfNat_le_iff {n k : Nat} (hk : 0 < k) :
    (digitsOfNat n).length ≤ k ↔ n < 10 ^ k := by
  rw [digitsOfNat_eq_toDigits]
  exact Nat.length_toDigits_le_iff (by decide) hk

theorem natOfDigits_cons (c : Char) (cs : List Char) :
    natOfDigits (c :: cs) = 10 ^ cs.length * natOfDigits [c] + natOfDigits cs :=
  natOfDigits_append [c] cs

theorem natOfDigits_singleton_lt {c : Char} (h : c.isDigit = true) : natOfDigits [c] < 10 := by
  rw [isDigit_iff] at h
  show 10 * 0 + (c.toNat - '0'.toNat) < 10
  have hzero : '0'.toNat = 48 := rfl
  omega

/-- A run of digits writes a number below the power of ten that it reaches up to. -/
theorem natOfDigits_lt {cs : List Char} (h : ∀ c ∈ cs, c.isDigit = true) :
    natOfDigits cs < 10 ^ cs.length := by
  induction cs with
  | nil => decide
  | cons c cs ih =>
    have hcs := ih fun d hd => h d (List.mem_cons_of_mem c hd)
    have hc := natOfDigits_singleton_lt (h c List.mem_cons_self)
    rw [natOfDigits_cons, List.length_cons, Nat.pow_succ]
    calc
      10 ^ cs.length * natOfDigits [c] + natOfDigits cs
          < 10 ^ cs.length * natOfDigits [c] + 10 ^ cs.length := Nat.add_lt_add_left hcs _
      _ = 10 ^ cs.length * (natOfDigits [c] + 1) := (Nat.mul_succ _ _).symm
      _ ≤ 10 ^ cs.length * 10 := Nat.mul_le_mul_left _ hc

@[simp] theorem natOfDigits_replicate (k : Nat) : natOfDigits (List.replicate k '0') = 0 := by
  rw [natOfDigits, Nat.ofDigitChars_replicate_zero, Nat.mul_zero]

/-- Zeros before a number do not change it. -/
theorem natOfDigits_replicate_append (k : Nat) (cs : List Char) :
    natOfDigits (List.replicate k '0' ++ cs) = natOfDigits cs := by
  rw [natOfDigits_append, natOfDigits_replicate, Nat.mul_zero, Nat.zero_add]

/-- Zeros behind a number multiply it by ten. -/
theorem natOfDigits_append_replicate (k : Nat) (cs : List Char) :
    natOfDigits (cs ++ List.replicate k '0') = natOfDigits cs * 10 ^ k := by
  rw [natOfDigits_append, natOfDigits_replicate, Nat.add_zero, List.length_replicate, Nat.mul_comm]
  rfl

theorem natOfDigits_singleton_eq_zero_iff {c : Char} (h : c.isDigit = true) :
    natOfDigits [c] = 0 ↔ c = '0' := by
  constructor
  · intro hzero
    rw [isDigit_iff] at h
    have hvalue : 10 * 0 + (c.toNat - '0'.toNat) = 0 := hzero
    have hcode : '0'.toNat = 48 := rfl
    exact Char.toNat_inj.mp (by omega)
  · rintro rfl
    rfl

theorem natOfDigits_eq_zero_iff {cs : List Char} (h : ∀ c ∈ cs, c.isDigit = true) :
    natOfDigits cs = 0 ↔ ∀ c ∈ cs, c = '0' := by
  induction cs with
  | nil => exact iff_of_true rfl fun c hc => absurd hc List.not_mem_nil
  | cons c cs ih =>
    obtain ⟨hc, hcs⟩ := List.forall_mem_cons.mp h
    have hpow : (10 : Nat) ^ cs.length ≠ 0 := Nat.ne_of_gt (Nat.pow_pos (by decide))
    rw [natOfDigits_cons, Nat.add_eq_zero_iff, List.forall_mem_cons, ih hcs, Nat.mul_eq_zero,
      or_iff_right hpow, natOfDigits_singleton_eq_zero_iff hc]

theorem natOfDigits_concat (cs : List Char) (c : Char) :
    natOfDigits (cs ++ [c]) = 10 * natOfDigits cs + natOfDigits [c] :=
  natOfDigits_append cs [c]

/-- Before its last digit a number below ten has only zeros. -/
theorem natOfDigits_lt_ten_iff {cs : List Char} (h : ∀ c ∈ cs, c.isDigit = true) :
    natOfDigits cs < 10 ↔ ∀ c ∈ cs.dropLast, c = '0' := by
  by_cases hne : cs = []
  · rw [hne]
    exact iff_of_true (by decide) fun c hc => absurd hc List.not_mem_nil
  · obtain ⟨front, last, rfl⟩ : ∃ front last, cs = front ++ [last] :=
      ⟨cs.dropLast, cs.getLast hne, (List.dropLast_concat_getLast hne).symm⟩
    have hlast := natOfDigits_singleton_lt (h last (List.mem_append_right _ List.mem_cons_self))
    rw [List.dropLast_concat, ← natOfDigits_eq_zero_iff fun c hc => h c (List.mem_append_left _ hc),
      natOfDigits_concat]
    omega

/-! ## Runs and their numbers -/

/-- The last digit of a run is the remainder of its number. -/
theorem natOfDigits_mod_ten_eq_zero_iff {cs : List Char} (h : ∀ c ∈ cs, c.isDigit = true)
    (hne : cs ≠ []) : natOfDigits cs % 10 = 0 ↔ cs.getLast? = some '0' := by
  obtain ⟨front, last, rfl⟩ : ∃ front last, cs = front ++ [last] :=
    ⟨cs.dropLast, cs.getLast hne, (List.dropLast_concat_getLast hne).symm⟩
  have hdigit := h last (List.mem_append_right _ List.mem_cons_self)
  have hlast := natOfDigits_singleton_lt hdigit
  rw [natOfDigits_concat, List.getLast?_concat, Option.some.injEq,
    ← natOfDigits_singleton_eq_zero_iff hdigit]
  omega

theorem natOfDigits_singleton_injective {c d : Char} (hc : c.isDigit = true)
    (hd : d.isDigit = true) (h : natOfDigits [c] = natOfDigits [d]) : c = d := by
  rw [isDigit_iff] at hc hd
  have hvalues : 10 * 0 + (c.toNat - '0'.toNat) = 10 * 0 + (d.toNat - '0'.toNat) := h
  have hcode : '0'.toNat = 48 := rfl
  exact Char.toNat_inj.mp (by omega)

/-- A number says where it is cut, if it is known how many digits stand behind the cut. -/
theorem natOfDigits_append_inj {xs xs' ys ys' : List Char} (hy : ∀ c ∈ ys, c.isDigit = true)
    (hy' : ∀ c ∈ ys', c.isDigit = true) (hlength : ys.length = ys'.length)
    (h : natOfDigits (xs ++ ys) = natOfDigits (xs' ++ ys')) :
    natOfDigits xs = natOfDigits xs' ∧ natOfDigits ys = natOfDigits ys' := by
  have hlt : natOfDigits ys < Nat.pow 10 ys.length := natOfDigits_lt hy
  have hlt' : natOfDigits ys' < Nat.pow 10 ys.length := hlength ▸ natOfDigits_lt hy'
  rw [natOfDigits_append, natOfDigits_append, ← hlength] at h
  generalize Nat.pow 10 ys.length = p at h hlt hlt'
  have hpos : 0 < p := Nat.zero_lt_of_lt hlt
  have hdiv := congrArg (· / p) h
  have hmod := congrArg (· % p) h
  simp only [Nat.mul_add_div hpos, Nat.mul_add_mod, Nat.div_eq_of_lt, Nat.mod_eq_of_lt, hlt, hlt',
    Nat.add_zero] at hdiv hmod
  exact ⟨hdiv, hmod⟩

/-- Runs of the same length are determined by their numbers. -/
theorem eq_of_natOfDigits_eq {cs ds : List Char} (hc : ∀ c ∈ cs, c.isDigit = true)
    (hd : ∀ d ∈ ds, d.isDigit = true) (hlength : cs.length = ds.length)
    (h : natOfDigits cs = natOfDigits ds) : cs = ds := by
  induction cs generalizing ds with
  | nil => exact (List.length_eq_zero_iff.mp hlength.symm).symm
  | cons c cs ih =>
    obtain ⟨d, ds, rfl⟩ := List.exists_cons_of_length_eq_add_one hlength.symm
    obtain ⟨hcfirst, hcrest⟩ := List.forall_mem_cons.mp hc
    obtain ⟨hdfirst, hdrest⟩ := List.forall_mem_cons.mp hd
    have hrest : cs.length = ds.length := Nat.add_right_cancel hlength
    have hcut : natOfDigits ([c] ++ cs) = natOfDigits ([d] ++ ds) := h
    obtain ⟨hfirst, htail⟩ := natOfDigits_append_inj hcrest hdrest hrest hcut
    rw [natOfDigits_singleton_injective hcfirst hdfirst hfirst, ih hcrest hdrest hrest htail]

/-- A number is not written with a superfluous zero in front. -/
theorem head?_digitsOfNat {n : Nat} (h : (digitsOfNat n).head? = some '0') :
    digitsOfNat n = ['0'] := by
  obtain ⟨rest, hrest⟩ := List.head?_eq_some_iff.mp h
  rcases Nat.eq_zero_or_pos rest.length with hempty | hpos
  · rw [hrest, List.length_eq_zero_iff.mp hempty]
  · -- the digits behind the zero would be enough
    have hdigits : ∀ c ∈ rest, c.isDigit = true := fun c hc =>
      isDigit_of_mem_digitsOfNat (n := n) (hrest ▸ List.mem_cons_of_mem _ hc)
    have hn : n < 10 ^ rest.length := by
      rw [← natOfDigits_digitsOfNat n, hrest, ← List.singleton_append,
        show ['0'] = List.replicate 1 '0' from rfl, natOfDigits_replicate_append]
      exact natOfDigits_lt hdigits
    have hlength := (length_digitsOfNat_le_iff hpos).mpr hn
    rw [hrest, List.length_cons] at hlength
    omega

/-- A run without a superfluous zero in front is how its number is written. -/
theorem digitsOfNat_natOfDigits {cs : List Char} (h : ∀ c ∈ cs, c.isDigit = true)
    (hne : cs ≠ []) (hfront : cs.head? = some '0' → cs = ['0']) :
    digitsOfNat (natOfDigits cs) = cs := by
  obtain ⟨c, rest, rfl⟩ := List.exists_cons_of_ne_nil hne
  obtain ⟨hfirst, hrest⟩ := List.forall_mem_cons.mp h
  refine eq_of_natOfDigits_eq (fun _ hc => isDigit_of_mem_digitsOfNat hc) h ?_
    (natOfDigits_digitsOfNat _)
  have hle : (digitsOfNat (natOfDigits (c :: rest))).length ≤ (c :: rest).length :=
    (length_digitsOfNat_le_iff (Nat.succ_pos _)).mpr (natOfDigits_lt h)
  refine Nat.le_antisymm hle ?_
  rcases Nat.eq_zero_or_pos rest.length with hempty | hpos
  · rw [List.length_cons, hempty]
    exact length_digitsOfNat_pos _
  · have hzero : natOfDigits [c] ≠ 0 := by
      rw [Ne, natOfDigits_singleton_eq_zero_iff hfirst]
      rintro rfl
      rw [(List.cons.inj (hfront rfl)).2] at hpos
      exact Nat.lt_irrefl _ hpos
    have hlarge : 10 ^ rest.length ≤ natOfDigits (c :: rest) := by
      rw [natOfDigits_cons]
      exact Nat.le_add_right_of_le (Nat.le_mul_of_pos_right _ (Nat.pos_of_ne_zero hzero))
    have hnot : ¬(digitsOfNat (natOfDigits (c :: rest))).length ≤ rest.length := by
      rw [length_digitsOfNat_le_iff hpos]
      exact Nat.not_lt.mpr hlarge
    exact Nat.lt_of_not_le hnot

end TapeMeasure.Text
