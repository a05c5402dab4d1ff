import Mathlib.Data.List.Basic
import TapeMeasure.Proofs.Token.Numeral

/-!
# Numerals without superfluous digits

A value has many numerals, since zeros may be written before and behind it.  One of them has no
superfluous zero, and it is the one that is displayed.

* `Numeral.Canonical`: no superfluous zero, and no more than four places.
* `Numeral.Canonical.eq_of_magnitude`: a value has one canonical numeral at most.
* `Numeral.canonical_ofDecimal`: the plain notation of a decimal number without trailing zeros.
-/

namespace TapeMeasure

open Text

namespace Token

namespace Numeral

variable {n n' : Numeral}

/-- A numeral that starts with a zero only if that is all of its whole part, and that has a point
only before one to four digits of which the last is not zero. -/
structure Canonical (n : Numeral) : Prop extends n.Proper where
  whole_ne_nil : n.whole ≠ []
  whole_eq : n.whole.head? = some '0' → n.whole = ['0']
  places_ne : n.places ≠ some []
  places_getLast? : n.placeDigits.getLast? ≠ some '0'
  length_placeDigits_le : n.placeDigits.length ≤ 4

/-! ## Uniqueness -/

theorem Proper.digits (hn : n.Proper) : ∀ c ∈ n.whole ++ n.placeDigits, c.isDigit = true :=
  List.forall_mem_append.mpr ⟨hn.whole_digits, hn.place_digits⟩

/-- No numeral for the same value has fewer places. -/
theorem Canonical.length_placeDigits_le_of_magnitude (hn : n.Canonical)
    (h : n.value.magnitude = n'.value.magnitude) :
    n.placeDigits.length ≤ n'.placeDigits.length := by
  by_contra! hlt
  obtain ⟨k, hk⟩ : ∃ k, n.placeDigits.length = n'.placeDigits.length + (k + 1) :=
    ⟨n.placeDigits.length - n'.placeDigits.length - 1, by omega⟩
  have hpow : (10 : Rat) ^ (-(n.placeDigits.length : Int)) ≠ 0 := zpow_ne_zero _ (by norm_num)
  have hexponent : -(n'.placeDigits.length : Int) =
      -(n.placeDigits.length : Int) + ((k + 1 : Nat) : Int) := by
    omega
  -- the digits that are missing from the other numeral would be zeros in this one
  have hdigits : natOfDigits (n.whole ++ n.placeDigits) =
      natOfDigits (n'.whole ++ n'.placeDigits) * 10 ^ (k + 1) := by
    rw [magnitude_value, magnitude_value, hexponent, ← Decimal.natCast_mul_pow_mul_zpow,
      mul_left_inj' hpow, Nat.cast_inj] at h
    exact h
  have hmod : natOfDigits (n.whole ++ n.placeDigits) % 10 = 0 := by
    rw [hdigits, pow_succ, ← mul_assoc, Nat.mul_mod_left]
  have hne : n.placeDigits ≠ [] := List.ne_nil_of_length_pos (by omega)
  rw [natOfDigits_mod_ten_eq_zero_iff hn.digits hn.nonempty,
    List.getLast?_append_of_ne_nil _ hne] at hmod
  exact hn.places_getLast? hmod

theorem Canonical.digitsOfNat_whole (hn : n.Canonical) :
    digitsOfNat (natOfDigits n.whole) = n.whole :=
  digitsOfNat_natOfDigits hn.whole_digits hn.whole_ne_nil hn.whole_eq

/-- The places are written exactly if there are any. -/
theorem Canonical.places_eq (hn : n.Canonical) :
    n.places = if n.placeDigits = [] then none else some n.placeDigits := by
  have hne := hn.places_ne
  rw [placeDigits] at *
  cases hplaces : n.places with
  | none => rfl
  | some places =>
    rw [Option.getD_some, if_neg]
    rintro rfl
    exact hne hplaces

/-- A value has one canonical numeral at most. -/
theorem Canonical.eq_of_magnitude (hn : n.Canonical) (hn' : n'.Canonical)
    (h : n.value.magnitude = n'.value.magnitude) : n = n' := by
  have hlength : n.placeDigits.length = n'.placeDigits.length :=
    le_antisymm (hn.length_placeDigits_le_of_magnitude h)
      (hn'.length_placeDigits_le_of_magnitude h.symm)
  have hpow : (10 : Rat) ^ (-(n'.placeDigits.length : Int)) ≠ 0 := zpow_ne_zero _ (by norm_num)
  have hdigits : natOfDigits (n.whole ++ n.placeDigits) =
      natOfDigits (n'.whole ++ n'.placeDigits) := by
    rw [magnitude_value, magnitude_value, hlength, mul_left_inj' hpow, Nat.cast_inj] at h
    exact h
  obtain ⟨hwhole, hplaces⟩ :=
    natOfDigits_append_inj hn.place_digits hn'.place_digits hlength hdigits
  have hplaceDigits := eq_of_natOfDigits_eq hn.place_digits hn'.place_digits hlength hplaces
  have hsame : n.whole = n'.whole := by
    rw [← hn.digitsOfNat_whole, ← hn'.digitsOfNat_whole, hwhole]
  have hpoint : n.places = n'.places := by
    rw [hn.places_eq, hn'.places_eq, hplaceDigits]
  cases n
  cases n'
  rw [mk.injEq]
  exact ⟨hsame, hpoint⟩

/-! ## Plain notations -/

theorem canonical_zero : (ofNat 0).Canonical where
  toProper := proper_ofNat 0
  whole_ne_nil := digitsOfNat_ne_nil 0
  whole_eq := head?_digitsOfNat
  places_ne := (Option.some_ne_none []).symm
  places_getLast? := (Option.some_ne_none '0').symm
  length_placeDigits_le := Nat.zero_le 4

/-- Wherever the point is placed, digits that neither start nor end with a zero get no superfluous
one. -/
theorem canonical_ofDigits {digits : List Char} (hdigits : ∀ c ∈ digits, c.isDigit = true)
    (hne : digits ≠ []) (hfirst : digits.head? ≠ some '0') (hlast : digits.getLast? ≠ some '0')
    {left : Int} (hplaces : digits.length - left ≤ 4) : (ofDigits digits left).Canonical := by
  have hproper := proper_ofDigits hdigits hne left
  rw [ofDigits] at hproper ⊢
  split at hproper
  · -- all digits stand behind the point
    rename_i hleft
    rw [if_pos hleft]
    refine ⟨hproper, List.cons_ne_nil _ _, fun _ => rfl, ?_, ?_, ?_⟩
    · rw [Ne, Option.some_inj]
      exact List.append_ne_nil_of_right_ne_nil _ hne
    · rw [placeDigits, Option.getD_some, List.getLast?_append_of_ne_nil _ hne]
      exact hlast
    · rw [placeDigits, Option.getD_some, List.length_append, List.length_replicate]
      omega
  · rename_i hleft
    rw [if_neg hleft]
    split at hproper
    · -- all digits stand before the point, which is not written
      rename_i hle
      rw [if_pos hle]
      refine ⟨hproper, List.append_ne_nil_of_left_ne_nil hne _, ?_, (Option.some_ne_none []).symm,
        (Option.some_ne_none '0').symm, Nat.zero_le 4⟩
      rw [List.head?_append_of_ne_nil _ hne]
      exact fun h => absurd h hfirst
    · -- the point stands between the digits
      rename_i hlt
      rw [if_neg hlt]
      have hbehind : digits.drop left.toNat ≠ [] := by
        rw [Ne, List.drop_eq_nil_iff]
        omega
      refine ⟨hproper, ?_, ?_, ?_, ?_, ?_⟩
      · rw [Ne, List.take_eq_nil_iff]
        exact not_or.mpr ⟨by omega, hne⟩
      · rw [List.head?_take, if_neg (by omega)]
        exact fun h => absurd h hfirst
      · rw [Ne, Option.some_inj]
        exact hbehind
      · rw [placeDigits, Option.getD_some,
          ← List.getLast?_append_of_ne_nil (digits.take left.toNat) hbehind,
          List.take_append_drop]
        exact hlast
      · rw [placeDigits, Option.getD_some, List.length_drop]
        omega

/-- The plain notation of a number without trailing zeros has no superfluous zero. -/
theorem canonical_ofDecimal {d : Decimal} (hplaces : -4 ≤ d.exponent)
    (hlast : d.coefficient % 10 ≠ 0) : (ofDecimal d).Canonical := by
  have hdigits : ∀ c ∈ digitsOfNat d.coefficient, c.isDigit = true := fun _ hc =>
    isDigit_of_mem_digitsOfNat hc
  have hne := digitsOfNat_ne_nil d.coefficient
  refine canonical_ofDigits hdigits hne ?_ ?_ ?_
  · intro hzero
    have hcoefficient : d.coefficient = 0 := by
      rw [← natOfDigits_digitsOfNat d.coefficient, head?_digitsOfNat hzero]
      rfl
    exact hlast (by rw [hcoefficient])
  · rw [Ne, ← natOfDigits_mod_ten_eq_zero_iff hdigits hne, natOfDigits_digitsOfNat]
    exact hlast
  · rw [Decimal.digitCount_eq]
    omega

end Numeral

end Token

end TapeMeasure
