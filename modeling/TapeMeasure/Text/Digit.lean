/-!
# Decimal digits and the numbers they write

The ten digits `0` to `9`, the number that a run of them denotes, and the run that a number is
written with.  Writing and reading again gives the number back (`natOfDigits_digitsOfNat`), and
what is written consists of digits (`isDigit_of_mem_digitsOfNat`).  `digitLength` counts them
without writing all of them.
-/

namespace TapeMeasure.Text

/-- The digits are the characters from `0` to `9`. -/
theorem isDigit_iff {c : Char} : c.isDigit = true ↔ 48 ≤ c.toNat ∧ c.toNat ≤ 57 := by
  simp only [Char.isDigit, Bool.and_eq_true, decide_eq_true_eq, ge_iff_le, UInt32.le_iff_toNat_le]
  exact Iff.rfl

/-- The number that a run of digits denotes; the empty run denotes zero. -/
def natOfDigits (cs : List Char) : Nat :=
  Nat.ofDigitChars 10 cs 0

/-- The digits of a number, without superfluous zeros. -/
def digitsOfNat (n : Nat) : List Char :=
  n.repr.toList

theorem digitsOfNat_eq_toDigits (n : Nat) : digitsOfNat n = Nat.toDigits 10 n :=
  Nat.toList_repr

@[simp] theorem natOfDigits_nil : natOfDigits [] = 0 := rfl

theorem natOfDigits_append (xs ys : List Char) :
    natOfDigits (xs ++ ys) = Nat.pow 10 ys.length * natOfDigits xs + natOfDigits ys := by
  rw [natOfDigits, Nat.ofDigitChars_append, Nat.ofDigitChars_eq_ofDigitChars_zero]
  rfl

@[simp] theorem natOfDigits_digitsOfNat (n : Nat) : natOfDigits (digitsOfNat n) = n := by
  rw [digitsOfNat_eq_toDigits]
  exact Nat.ofDigitChars_toDigits (by decide) (by decide)

theorem isDigit_of_mem_digitsOfNat {n : Nat} {c : Char} (h : c ∈ digitsOfNat n) :
    c.isDigit = true := by
  rw [digitsOfNat_eq_toDigits] at h
  exact Nat.isDigit_of_mem_toDigits (by decide) (by decide) h

/-- A number is written with one digit at least. -/
theorem digitsOfNat_ne_nil (n : Nat) : digitsOfNat n ≠ [] := by
  rw [digitsOfNat_eq_toDigits]
  exact Nat.toDigits_ne_nil

/-- How many digits a number is written with. The binary digits say how many there are for sure, and
only the quotient that remains is written. -/
def digitLength (n : Nat) : Nat :=
  let sure := 3 * Nat.log2 n / 10
  sure + (digitsOfNat (n / Nat.pow 10 sure)).length

/-- Three decimal digits are less than ten binary ones. -/
theorem pow_ten_le {n : Nat} (h : n ≠ 0) : Nat.pow 10 (3 * Nat.log2 n / 10) ≤ n := by
  have hpow : Nat.pow 10 (3 * Nat.log2 n / 10) ≤ Nat.pow 2 (Nat.log2 n) := by
    refine (Nat.pow_le_pow_iff_left (n := 10) (by decide)).mp ?_
    calc
      Nat.pow 10 (3 * Nat.log2 n / 10) ^ 10 = 10 ^ (3 * Nat.log2 n / 10 * 10) :=
        (Nat.pow_mul 10 _ 10).symm
      _ ≤ 10 ^ (3 * Nat.log2 n) := Nat.pow_le_pow_right (by decide) (Nat.div_mul_le_self _ _)
      _ = (10 ^ 3) ^ Nat.log2 n := Nat.pow_mul 10 3 _
      _ ≤ (2 ^ 10) ^ Nat.log2 n := Nat.pow_le_pow_left (by decide) _
      _ = Nat.pow 2 (Nat.log2 n) ^ 10 := by
        rw [← Nat.pow_mul, Nat.mul_comm, Nat.pow_mul]
        rfl
  exact Nat.le_trans hpow (Nat.log2_self_le h)

/-- The count is right. -/
theorem digitLength_eq (n : Nat) : digitLength n = (digitsOfNat n).length := by
  rw [digitLength, digitsOfNat_eq_toDigits, digitsOfNat_eq_toDigits]
  by_cases hzero : n = 0
  · rw [hzero]
    decide
  · have hsure := pow_ten_le hzero
    generalize 3 * Nat.log2 n / 10 = sure at hsure ⊢
    have hbound (m : Nat) : m < 10 ^ (Nat.toDigits 10 m).length :=
      (Nat.length_toDigits_le_iff (by decide) Nat.length_toDigits_pos).mp (Nat.le_refl _)
    have hlt : sure < (Nat.toDigits 10 n).length :=
      (Nat.pow_lt_pow_iff_right (by decide)).mp (Nat.lt_of_le_of_lt hsure (hbound n))
    have hpos : 0 < Nat.pow 10 sure := Nat.pow_pos (by decide)
    refine Nat.le_antisymm (Nat.add_le_of_le_sub' (Nat.le_of_lt hlt) ?_) ?_
    · rw [Nat.length_toDigits_le_iff (by decide) (Nat.sub_pos_of_lt hlt),
        Nat.div_lt_iff_lt_mul hpos]
      have hsplit := Nat.pow_sub_mul_pow 10 (Nat.le_of_lt hlt)
      exact Nat.lt_of_lt_of_le (hbound n) (Nat.le_of_eq hsplit.symm)
    · rw [Nat.length_toDigits_le_iff (by decide) (Nat.add_pos_right _ Nat.length_toDigits_pos),
        Nat.add_comm, Nat.pow_add]
      exact (Nat.div_lt_iff_lt_mul hpos).mp (hbound _)

/-- A whole number with a minus sign if it is negative. -/
def digitsOfInt (n : Int) : List Char :=
  if n < 0 then '-' :: digitsOfNat n.natAbs else digitsOfNat n.natAbs

/-- A whole number as a text. -/
def integerText (n : Int) : String :=
  String.ofList (digitsOfInt n)

end TapeMeasure.Text
