import TapeMeasure.Proofs.Expression.Amount
import TapeMeasure.Proofs.Quantity.FeetInches

/-!
# Displayed quantities read back

The tokens of a displayed text, entered without inch marks, write one operand with the sign and the
magnitude of the quantity.  There are no tokens if a number of the text is too long.

* `Token.ofText_numeral`, `Token.ofText_numeral_tooLong`: the texts of plain numbers.
* `exists_scan_bareInches`: the inches below a foot, whatever stands before them.
* `exists_ofText_bareFeetInches`, `ofText_bareFeetInches_tooLong`: feet and inches.
-/

namespace TapeMeasure

open Text

namespace Token

/-! ## Plain numbers -/

section

variable {n : Numeral} {negative : Bool}

theorem ofText_numeral_eq_scan (hn : n.Proper) :
    ofText (String.ofList (Decimal.signed negative n.text)) =
      scan 0 false (Decimal.signed negative (n.text ++ [])) := by
  have hstart := Numeral.startsNumber_text_append hn []
  have hmarks := plainMarks_written ((isWritten_text hn).signed negative) []
  rw [List.append_nil] at hstart hmarks
  rw [plainMarks_nil, List.append_nil] at hmarks
  rw [List.append_nil]
  refine ofText_signed hstart ?_ hmarks
  intro c hc
  exact isBlank_eq_false_of_isNumeric
    (Numeral.isNumeric_of_mem_text hn c (List.mem_of_mem_getLast? hc))

/-- The text of a numeral that is not too long is read as one number. -/
theorem ofText_numeral (hn : n.Proper) (hshort : n.digitCount ≤ maxLiteralDigits) :
    ofText (String.ofList (Decimal.signed negative n.text)) =
      .ok [.number (n.literal hn) negative 0] := by
  rw [ofText_numeral_eq_scan hn, scan_number hn endsWord_nil hshort (fun _ => rfl),
    scan_nil]
  rfl

theorem ofText_numeral_tooLong (hn : n.Proper) (hlong : maxLiteralDigits < n.digitCount) :
    ofText (String.ofList (Decimal.signed negative n.text)) =
      .error ⟨.numberTooLong, negative.toNat⟩ := by
  rw [ofText_numeral_eq_scan hn, scan_tooLong hn endsWord_nil.endsNumber hlong (fun _ => rfl),
    Nat.zero_add]

end

/-- No token is a percent sign or a number with a point. -/
def IsPlain (tokens : List Token) : Prop :=
  ∀ token ∈ tokens, token.isPercent = false ∧ token.isPointed = false

theorem isMeasurement_of_isPlain {tokens : List Token} (h : IsPlain tokens) :
    isMeasurement tokens = true := by
  have hpercent : tokens.any isPercent = false := by
    rw [List.any_eq_false]
    exact fun token htoken => by rw [(h token htoken).1]; decide
  have hpointed : tokens.any isPointed = false := by
    rw [List.any_eq_false]
    exact fun token htoken => by rw [(h token htoken).2]; decide
  rw [isMeasurement, hpercent, hpointed]
  exact Bool.or_true _

/-! ## Whole numbers and ratios -/

theorem isPlain_nil : IsPlain [] := by
  intro token htoken
  cases htoken

theorem IsPlain.cons {token : Token} {tokens : List Token} (hpercent : token.isPercent = false)
    (hpointed : token.isPointed = false) (h : IsPlain tokens) : IsPlain (token :: tokens) :=
  List.forall_mem_cons.mpr ⟨⟨hpercent, hpointed⟩, h⟩

/-- The literal of a whole number. -/
def natLiteral (n : Nat) : Literal :=
  (Numeral.ofNat n).literal (Numeral.proper_ofNat n)

theorem toRat_natLiteral (n : Nat) : (natLiteral n).value.toRat = n := by
  show (Numeral.ofNat n).value.toRat = n
  rw [Numeral.value_ofNat, Decimal.toRat_ofNat]

theorem isInteger_natLiteral (n : Nat) : (natLiteral n).isInteger = true := by
  have hpoint : '.' ∉ (natLiteral n).text.toList := by
    show '.' ∉ (String.ofList (digitsOfNat n)).toList
    rw [String.toList_ofList]
    exact Decimal.point_notMem_digitsOfNat n
  rw [Literal.isInteger, Bool.not_eq_true', ← Bool.not_eq_true, List.contains_iff_mem]
  exact hpoint

theorem isPointed_natLiteral (n : Nat) (negative : Bool) (position : Nat) :
    isPointed (.number (natLiteral n) negative position) = false := by
  rw [isPointed, isInteger_natLiteral]
  rfl

theorem toRat_ratioOf {numerator denominator : Nat} (h : 0 < denominator) :
    (ratioOf numerator denominator h).toRat = (numerator : Rat) / (denominator : Rat) := by
  rw [Ratio.toRat, ratioOf, Int.cast_natCast]

end Token

namespace Quantity

open Token Operand

/-! ## Feet and inches -/

section

variable {inches numerator denominator : Nat} {negative afterOperand : Bool}

theorem scan_whole (hsign : negative = true → afterOperand = false) (hinches : inches < 100)
    (start : Nat) :
    scan start afterOperand (Decimal.signed negative (digitsOfNat inches)) =
      .ok [.number (natLiteral inches) negative start] := by
  have hscan := scan_number (Numeral.proper_ofNat inches) endsWord_nil
    (length_digitsOfNat_le hinches) hsign start
  rw [List.append_nil, scan_nil] at hscan
  exact hscan

theorem scan_ratio (hsign : negative = true → afterOperand = false) (hnumerator : numerator < 100)
    (hdenominator : denominator < 100) (hpos : 0 < denominator) (start : Nat) :
    scan start afterOperand (Decimal.signed negative (fractionText numerator denominator)) =
      .ok [.fraction (ratioOf numerator denominator hpos) negative start] := by
  have hscan := scan_fraction hpos endsWord_nil (length_digitsOfNat_le hnumerator)
    (length_digitsOfNat_le hdenominator) hsign start
  rw [List.append_nil, scan_nil] at hscan
  exact hscan

theorem scan_mixed (hsign : negative = true → afterOperand = false) (hinches : inches < 100)
    (hnumerator : numerator < 100) (hdenominator : denominator < 100) (hpos : 0 < denominator)
    (start : Nat) :
    ∃ next : Nat,
      scan start afterOperand (Decimal.signed negative
          (digitsOfNat inches ++ ' ' :: fractionText numerator denominator)) =
        .ok [.number (natLiteral inches) negative start,
          .fraction (ratioOf numerator denominator hpos) false next] := by
  have hspace : EndsWord (' ' :: fractionText numerator denominator) :=
    endsWord_cons (by decide) _
  have hscan := scan_number (Numeral.proper_ofNat inches) hspace
    (length_digitsOfNat_le hinches) hsign start
  have hunsigned : false = true → true = false := by decide
  have hratio := scan_ratio hunsigned hnumerator hdenominator hpos
  simp only [Decimal.signed_false] at hratio
  rw [scan_blank (by decide), hratio] at hscan
  exact ⟨_, hscan⟩

/-- The inches below a foot are read as inches, whatever stands before them. -/
theorem exists_scan_bareInches (hsign : negative = true → afterOperand = false)
    (hinches : inches < 100) (hnumerator : numerator < 100) (hdenominator : denominator < 100)
    (hpos : 0 < denominator) (start : Nat) :
    ∃ tokens : List Token,
      scan start afterOperand
          (Decimal.signed negative (bareInches inches numerator denominator)) = .ok tokens ∧
        WritesInchAmount tokens negative ((inches : Rat) + numerator / denominator) ∧
        IsPlain tokens := by
  rw [bareInches]
  by_cases hfraction : numerator = 0
  · have hamount : (inches : Rat) + (numerator : Rat) / denominator =
        (natLiteral inches).value.toRat := by
      rw [toRat_natLiteral, hfraction, Nat.cast_zero, zero_div, add_zero]
    rw [if_pos hfraction, hamount]
    exact ⟨_, scan_whole hsign hinches start, writesInchAmount_number _ _ _,
      .cons rfl (isPointed_natLiteral _ _ _) isPlain_nil⟩
  · rw [if_neg hfraction]
    by_cases hzero : inches = 0
    · have hamount : (inches : Rat) + (numerator : Rat) / denominator =
          (ratioOf numerator denominator hpos).toRat := by
        rw [toRat_ratioOf, hzero, Nat.cast_zero, zero_add]
      rw [if_pos hzero, hamount]
      exact ⟨_, scan_ratio hsign hnumerator hdenominator hpos start,
        writesInchAmount_fraction _ _ _, .cons rfl rfl isPlain_nil⟩
    · obtain ⟨next, hscan⟩ :=
        scan_mixed hsign hinches hnumerator hdenominator hpos start
      rw [if_neg hzero, ← toRat_natLiteral inches, ← toRat_ratioOf hpos]
      exact ⟨_, hscan, writesInchAmount_mixed (Numeral.point_notMem_short_ofNat inches) _ _ _ _ _,
        .cons rfl (isPointed_natLiteral _ _ _) (.cons rfl rfl isPlain_nil)⟩

end

/-- The fraction of a quantity and the inches below a foot are written with few digits. -/
theorem exists_scan_inches (q : Quantity) {negative afterOperand : Bool}
    (hsign : negative = true → afterOperand = false) (start : Nat) :
    ∃ tokens : List Token,
      scan start afterOperand (Decimal.signed negative
          (bareInches (q.whole % 12) q.numerator q.denominator)) = .ok tokens ∧
        WritesInchAmount tokens negative
          (((q.whole % 12 : Nat) : Rat) + q.numerator / q.denominator) ∧
        IsPlain tokens := by
  have hdenominator : q.denominator ≤ 16 := Nat.le_of_dvd (by decide) q.denominator_dvd
  have hnumerator := q.numerator_lt
  exact exists_scan_bareInches hsign (by omega) (by omega) (by omega) q.denominator_pos start

/-! ## The text of a quantity -/

theorem startsNumber_bareFeetInches (q : Quantity) : startsNumber q.bareFeetInches = true := by
  rw [bareFeetInches]
  split
  · exact startsNumber_bareInches _ _ _
  · exact Numeral.startsNumber_text_append (Numeral.proper_ofNat _) _

theorem isBlank_getLast_bareFeetInches (q : Quantity) :
    ∀ c ∈ q.bareFeetInches.getLast?, isBlank c = false := by
  obtain ⟨front, n, hbare⟩ :=
    exists_bareInches_eq (q.whole % 12) q.numerator q.denominator
  rw [bareFeetInches, hbare]
  split
  · exact isBlank_getLast_digitsOfNat _ _
  · rw [← List.cons_append, ← List.cons_append, ← List.append_assoc]
    exact isBlank_getLast_digitsOfNat _ _

theorem plainMarks_bareFeetInches (q : Quantity) :
    plainMarks (Decimal.signed q.negative q.bareFeetInches) =
      Decimal.signed q.negative q.bareFeetInches := by
  have hinches := isWritten_bareInches (q.whole % 12) q.numerator q.denominator
  rw [bareFeetInches]
  split
  · have hmarks := plainMarks_written (hinches.signed q.negative) []
    rwa [plainMarks_nil, List.append_nil] at hmarks
  · rw [Decimal.signed_append]
    exact plainMarks_feet ((isWritten_digitsOfNat _).signed _) hinches

theorem ofText_bareFeetInches_eq_scan (q : Quantity) :
    ofText (String.ofList (Decimal.signed q.negative q.bareFeetInches)) =
      scan 0 false (Decimal.signed q.negative q.bareFeetInches) :=
  ofText_signed q.startsNumber_bareFeetInches q.isBlank_getLast_bareFeetInches
    q.plainMarks_bareFeetInches

/-- The whole inches are the feet and the inches below a foot. -/
theorem abs_toRat_eq_feet (q : Quantity) :
    |q.toRat| = ((q.whole / 12 : Nat) : Rat) * 12 +
      (((q.whole % 12 : Nat) : Rat) + q.numerator / q.denominator) := by
  have hwhole : (((q.whole / 12 : Nat) : Rat) * 12 + ((q.whole % 12 : Nat) : Rat)) = q.whole := by
    exact_mod_cast Nat.div_add_mod' q.whole 12
  rw [abs_toRat, ← add_assoc, hwhole]

/-- If the feet are not too long, the text is read as one operand with the sign and the magnitude
of the quantity. -/
theorem exists_ofText_bareFeetInches {q : Quantity}
    (hshort : (digitsOfNat (q.whole / 12)).length ≤ maxLiteralDigits) :
    ∃ tokens : List Token,
      ofText (String.ofList (Decimal.signed q.negative q.bareFeetInches)) = .ok tokens ∧
        WritesAmount tokens q.negative |q.toRat| ∧ IsPlain tokens := by
  rw [ofText_bareFeetInches_eq_scan, abs_toRat_eq_feet, bareFeetInches]
  by_cases hfeet : q.whole / 12 = 0
  · have hsign : q.negative = true → false = false := fun _ => rfl
    obtain ⟨tokens, hscan, hwrites, hplain⟩ := q.exists_scan_inches hsign 0
    rw [if_pos hfeet, hfeet, Nat.cast_zero, zero_mul, zero_add]
    exact ⟨tokens, hscan, hwrites.alone, hplain⟩
  · have hproper := Numeral.proper_ofNat (q.whole / 12)
    have hunsigned : false = true → true = false := by decide
    obtain ⟨tokens, hscan, hwrites, hplain⟩ := q.exists_scan_inches hunsigned
      (0 + q.negative.toNat + 1 + (Numeral.ofNat (q.whole / 12)).text.length + 1)
    have hfront := scan_feet hproper hshort (fun _ : q.negative = true => rfl) 0
      (' ' :: bareInches (q.whole % 12) q.numerator q.denominator)
    rw [Decimal.signed_false] at hscan
    rw [scan_blank (by decide), hscan] at hfront
    rw [if_neg hfeet, ← toRat_natLiteral (q.whole / 12)]
    refine ⟨_, hfront, hwrites.behind_feet _ _ _ _, ?_⟩
    exact .cons rfl (isPointed_natLiteral _ _ _) (.cons rfl rfl hplain)

/-- Feet that are too long stop the scan. -/
theorem ofText_bareFeetInches_tooLong {q : Quantity}
    (hlong : maxLiteralDigits < (digitsOfNat (q.whole / 12)).length) :
    ofText (String.ofList (Decimal.signed q.negative q.bareFeetInches)) =
      .error ⟨.numberTooLong, q.negative.toNat⟩ := by
  have hfeet : q.whole / 12 ≠ 0 := by
    intro hzero
    rw [hzero] at hlong
    exact absurd hlong (by decide)
  have hmark : EndsNumber
      ('\'' :: ' ' :: bareInches (q.whole % 12) q.numerator q.denominator) :=
    endsNumber_cons (by decide) _
  have hscan := scan_tooLong (Numeral.proper_ofNat (q.whole / 12)) hmark hlong
    (fun _ : q.negative = true => rfl) 0
  rw [ofText_bareFeetInches_eq_scan, bareFeetInches, if_neg hfeet]
  rwa [Nat.zero_add] at hscan

end Quantity

end TapeMeasure
