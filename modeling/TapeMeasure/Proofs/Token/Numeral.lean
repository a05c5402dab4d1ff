import TapeMeasure.Decimal.Text
import TapeMeasure.Proofs.Decimal.Value
import TapeMeasure.Proofs.Text.NumericRun
import TapeMeasure.Token.Scan

/-!
# Numerals for decimal numbers

The plain notation of a decimal number is a numeral, and the numeral has the value of the number.
Wherever the point is placed, the digits on both sides of it together with the number of places say
the same.

* `Numeral.ofDecimal`: the numeral of the plain notation, with `text_ofDecimal` and
  `magnitude_ofDecimal`.
* `Numeral.ofNat`: whole numbers.
* `Numeral.parse?_signed`: a numeral with a sign in front is read as its value with that sign.
* `Numeral.hasShortNumbers_text`: how many digits are counted in the text of a numeral.
-/

namespace TapeMeasure

open Text

namespace Token

namespace Numeral

theorem magnitude_value (n : Numeral) :
    n.value.magnitude =
      (natOfDigits (n.whole ++ n.placeDigits) : Rat) *
        (10 : Rat) ^ (-(n.placeDigits.length : Int)) :=
  rfl

theorem toRat_value (n : Numeral) : n.value.toRat = n.value.magnitude := rfl

theorem splitSign_text {n : Numeral} (hn : n.Proper) :
    Decimal.splitSign n.text = (false, n.text) := by
  obtain ⟨whole, _ | places⟩ := n
  · have hne := hn.nonempty
    rw [Token.Numeral.placeDigits, Option.getD_none, List.append_nil] at hne
    obtain ⟨c, whole, rfl⟩ := List.exists_cons_of_ne_nil hne
    exact Decimal.splitSign_of_isDigit _ (hn.whole_digits c List.mem_cons_self)
  · exact Decimal.splitSign_append_point hn.whole_digits _

/-- A numeral with a sign in front denotes its value with that sign. -/
theorem parse?_signed {n : Numeral} (hn : n.Proper) (negative : Bool) :
    Decimal.parse? (Decimal.signed negative n.text) = some (n.value.withSign negative) := by
  have hparse := parse?_text hn
  cases negative with
  | false => exact hparse
  | true =>
    rw [Decimal.parse?, splitSign_text hn] at hparse
    obtain ⟨unsigned, hunsigned, hvalue⟩ := Option.map_eq_some_iff.mp hparse
    show (Decimal.parseUnsigned? n.text).map (Decimal.withSign true) = _
    rw [hunsigned, ← hvalue]
    rfl

/-- A numeral writes less than the power of ten that all its digits reach up to. -/
theorem magnitude_value_lt {n : Numeral} (hn : n.Proper) :
    n.value.magnitude < (10 : Rat) ^ n.digitCount := by
  have hdigits : ∀ c ∈ n.whole ++ n.placeDigits, c.isDigit = true := by
    intro c hc
    rcases List.mem_append.mp hc with hc | hc
    · exact hn.whole_digits c hc
    · exact hn.place_digits c hc
  have hlt : natOfDigits (n.whole ++ n.placeDigits) < 10 ^ n.digitCount := by
    rw [digitCount, ← List.length_append]
    exact natOfDigits_lt hdigits
  have hone : (10 : Rat) ^ (-(n.placeDigits.length : Int)) ≤ 1 := by
    rw [zpow_neg, zpow_natCast]
    exact inv_le_one_of_one_le₀ (one_le_pow₀ (by norm_num))
  calc
    n.value.magnitude ≤ (natOfDigits (n.whole ++ n.placeDigits) : Rat) * 1 :=
      mul_le_mul_of_nonneg_left hone (Nat.cast_nonneg _)
    _ = (natOfDigits (n.whole ++ n.placeDigits) : Rat) := mul_one _
    _ < (10 : Rat) ^ n.digitCount := by exact_mod_cast hlt

/-- The digits of a number below a point that stands behind `left` of them. -/
def ofDigits (digits : List Char) (left : Int) : Numeral :=
  if left ≤ 0 then ⟨['0'], some (List.replicate left.natAbs '0' ++ digits)⟩
  else if (digits.length : Int) ≤ left then
    ⟨digits ++ List.replicate (left - digits.length).toNat '0', none⟩
  else ⟨digits.take left.toNat, some (digits.drop left.toNat)⟩

theorem text_ofDigits (digits : List Char) (left : Int) :
    (ofDigits digits left).text = Decimal.placePoint digits left := by
  rw [ofDigits, Decimal.placePoint]
  split
  · rfl
  · split <;> rfl

theorem isDigit_of_mem_replicate_zero {k : Nat} {c : Char} (h : c ∈ List.replicate k '0') :
    c.isDigit = true := by
  rw [List.eq_of_mem_replicate h]
  rfl

theorem proper_ofDigits {digits : List Char} (hdigits : ∀ c ∈ digits, c.isDigit = true)
    (hne : digits ≠ []) (left : Int) : (ofDigits digits left).Proper := by
  rw [ofDigits]
  split
  · refine ⟨?_, ?_, by simp⟩
    · intro c hc
      rw [List.mem_singleton.mp hc]
      rfl
    · intro c hc
      rcases List.mem_append.mp hc with hc | hc
      · exact isDigit_of_mem_replicate_zero hc
      · exact hdigits c hc
  · split
    · refine ⟨?_, fun c hc => absurd hc List.not_mem_nil, by simp [hne]⟩
      intro c hc
      rcases List.mem_append.mp hc with hc | hc
      · exact hdigits c hc
      · exact isDigit_of_mem_replicate_zero hc
    · refine ⟨fun c hc => hdigits c (List.mem_of_mem_take hc),
        fun c hc => hdigits c (List.mem_of_mem_drop hc), ?_⟩
      show digits.take left.toNat ++ digits.drop left.toNat ≠ []
      rwa [List.take_append_drop]

/-- Wherever the point is placed, the value counts the places behind it. -/
theorem magnitude_ofDigits (digits : List Char) (left : Int) :
    (ofDigits digits left).value.magnitude =
      (natOfDigits digits : Rat) * (10 : Rat) ^ (left - digits.length) := by
  rw [magnitude_value, ofDigits]
  split
  · rename_i hleft
    have hplaces : left - (digits.length : Int) =
        -(((List.replicate left.natAbs '0' ++ digits).length : Nat) : Int) := by
      rw [List.length_append, List.length_replicate]
      omega
    have hvalue : natOfDigits (['0'] ++ (List.replicate left.natAbs '0' ++ digits)) =
        natOfDigits digits := by
      rw [← List.append_assoc, show ['0'] = List.replicate 1 '0' from rfl,
        List.replicate_append_replicate, natOfDigits_replicate_append]
    rw [hplaces]
    simp only [placeDigits, Option.getD_some, hvalue]
  · split
    · rename_i hleft
      have hexponent : left - (digits.length : Int) = ((left - digits.length).toNat : Nat) := by
        omega
      simp only [placeDigits, Option.getD_none, List.append_nil, List.length_nil,
        natOfDigits_append_replicate]
      rw [hexponent, zpow_natCast]
      push_cast
      simp
    · rename_i hpos hlt
      have hplaces : left - (digits.length : Int) = -((digits.drop left.toNat).length : Int) := by
        rw [List.length_drop]
        omega
      rw [hplaces]
      simp only [placeDigits, Option.getD_some, List.take_append_drop]

/-- The numeral of the plain notation of a decimal number, without its sign. -/
def ofDecimal (d : Decimal) : Numeral :=
  ofDigits (digitsOfNat d.coefficient) (d.exponent + d.digitCount)

theorem text_ofDecimal (d : Decimal) : (ofDecimal d).text = d.unsignedPlain :=
  text_ofDigits _ _

/-- The plain notation has the value of the number. -/
theorem magnitude_ofDecimal (d : Decimal) : (ofDecimal d).value.magnitude = d.magnitude := by
  rw [ofDecimal, magnitude_ofDigits, natOfDigits_digitsOfNat, Decimal.magnitude,
    Decimal.digitCount_eq, add_sub_cancel_right]

/-! ## Whole numbers -/

/-- The numeral of a whole number. -/
def ofNat (n : Nat) : Numeral :=
  ⟨digitsOfNat n, none⟩

theorem proper_ofNat (n : Nat) : (ofNat n).Proper where
  whole_digits _ hc := isDigit_of_mem_digitsOfNat hc
  place_digits _ hc := absurd hc List.not_mem_nil
  nonempty := by simp [ofNat, digitsOfNat_ne_nil]

theorem value_ofNat (n : Nat) : (ofNat n).value = Decimal.ofNat n := by
  rw [value, Decimal.ofNat, ofNat, placeDigits, Option.getD_none, List.append_nil,
    natOfDigits_digitsOfNat]
  rfl

theorem magnitude_ofNat (n : Nat) : (ofNat n).value.magnitude = n := by
  rw [value_ofNat, Decimal.magnitude_ofNat]

/-- A whole number shows no point in the short notation. -/
theorem point_notMem_short_ofNat (n : Nat) : '.' ∉ (ofNat n).value.short := by
  have hplain : (Decimal.ofNat n).isPlainInShort = true := by
    have hdigits := (Decimal.ofNat n).digitCount_pos
    have hexponent : (Decimal.ofNat n).exponent = 0 := rfl
    rw [Decimal.isPlainInShort, Decimal.adjusted, Bool.and_eq_true, decide_eq_true_eq,
      decide_eq_true_eq]
    omega
  rw [value_ofNat, Decimal.short, Decimal.unsignedShort, if_pos hplain]
  show '.' ∉ (Decimal.ofNat n).unsignedPlain
  rw [Decimal.point_mem_unsignedPlain]
  exact not_lt.mpr (Int.le_refl 0)

theorem digitCount_ofNat (n : Nat) : (ofNat n).digitCount = (digitsOfNat n).length := rfl

/-! ## Counting digits -/

section

variable {n : Numeral} {limit : Nat}

theorem isNumeric_of_mem_text (hn : n.Proper) : ∀ c ∈ n.text, isNumeric c = true := by
  have hdigit : ∀ c, c.isDigit = true → isNumeric c = true := by
    intro c hc
    rw [isNumeric, hc, Bool.true_or]
  obtain ⟨whole, _ | places⟩ := n
  · exact fun c hc => hdigit c (hn.whole_digits c hc)
  · intro c hc
    rcases List.mem_append.mp hc with hc | hc
    · exact hdigit c (hn.whole_digits c hc)
    · rcases List.mem_cons.mp hc with rfl | hc
      · rfl
      · exact hdigit c (hn.place_digits c hc)

theorem countP_isDigit_text (hn : n.Proper) : n.text.countP Char.isDigit = n.digitCount := by
  have hwhole : n.whole.countP Char.isDigit = n.whole.length :=
    List.countP_eq_length.mpr hn.whole_digits
  have hplaces : n.placeDigits.countP Char.isDigit = n.placeDigits.length :=
    List.countP_eq_length.mpr hn.place_digits
  obtain ⟨whole, _ | places⟩ := n
  · rw [digitCount, text, hwhole]
    rfl
  · rw [digitCount, text, List.countP_append, hwhole,
      List.countP_cons_of_neg (by decide)]
    exact congrArg _ hplaces

/-- A numeral has as many digits as are counted in its text. -/
theorem hasShortNumbers_text (hn : n.Proper) :
    HasShortNumbers limit n.text ↔ n.digitCount ≤ limit := by
  rw [hasShortNumbers_run (isNumeric_of_mem_text hn), countP_isDigit_text hn]

theorem hasShortNumbers_text_append_cons (hn : n.Proper) {c : Char} (hc : isNumeric c = false)
    (cs : List Char) :
    HasShortNumbers limit (n.text ++ c :: cs) ↔
      n.digitCount ≤ limit ∧ HasShortNumbers limit cs := by
  rw [hasShortNumbers_append_cons hc, hasShortNumbers_text hn]

end

end Numeral

end Token

end TapeMeasure
