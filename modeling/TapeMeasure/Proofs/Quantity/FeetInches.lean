import Mathlib.Data.List.Basic
import TapeMeasure.Calculation
import TapeMeasure.Expression.Grammar
import TapeMeasure.Proofs.Quantity.Sixteenths
import TapeMeasure.Proofs.Token.Written

/-!
# The text in feet and inches

What is displayed in feet and inches is a plain text with a sign in front of it and, unless it is a
zero, an inch mark behind it.  There is such a text unless the feet have too many digits.

* `bareInches`, `bareFeetInches`: the displayed text without sign and inch mark.
* `exists_feetInches`, `eq_of_feetInches`: when there is a text, and which.
* `filter_feetInches`: what is left of the text without its inch mark.
* `hasShortNumbers_bareFeetInches`: the numbers of the text are short if the feet are.
-/

namespace TapeMeasure

open Text Token

namespace Quantity

/-! ## The text without its inch mark -/

/-- The inches below a foot without their mark. -/
def bareInches (inches numerator denominator : Nat) : List Char :=
  if numerator = 0 then digitsOfNat inches
  else if inches = 0 then fractionText numerator denominator
  else digitsOfNat inches ++ ' ' :: fractionText numerator denominator

/-- The feet and inches without sign and inch mark. -/
def bareFeetInches (q : Quantity) : List Char :=
  if q.whole / 12 = 0 then bareInches (q.whole % 12) q.numerator q.denominator
  else
    digitsOfNat (q.whole / 12) ++
      '\'' :: ' ' :: bareInches (q.whole % 12) q.numerator q.denominator

section

variable (inches numerator denominator : Nat)

theorem inchPart_eq :
    inchPart inches numerator denominator = bareInches inches numerator denominator ++ ['"'] := by
  rw [inchPart, bareInches]
  split
  · rfl
  · split
    · rfl
    · rfl

theorem isWritten_bareInches : IsWritten (bareInches inches numerator denominator) := by
  rw [bareInches]
  split
  · exact isWritten_digitsOfNat _
  · split
    · exact isWritten_fractionText _ _
    · exact isWritten_append.mpr
        ⟨isWritten_digitsOfNat _, isWritten_cons.mpr ⟨rfl, isWritten_fractionText _ _⟩⟩

/-- The inches start with digits. -/
theorem startsNumber_bareInches :
    startsNumber (bareInches inches numerator denominator) = true := by
  have hdigits : ∀ (n : Nat) (rest : List Char), startsNumber (digitsOfNat n ++ rest) = true :=
    fun n rest => Numeral.startsNumber_text_append (Numeral.proper_ofNat n) rest
  rw [bareInches]
  split
  · rw [← List.append_nil (digitsOfNat inches)]
    exact hdigits inches []
  · split
    · exact hdigits numerator _
    · exact hdigits inches _

/-- The inches end with digits. -/
theorem exists_bareInches_eq :
    ∃ (front : List Char) (n : Nat),
      bareInches inches numerator denominator = front ++ digitsOfNat n := by
  rw [bareInches, fractionText]
  split
  · exact ⟨[], inches, rfl⟩
  · split
    · refine ⟨digitsOfNat numerator ++ ['/'], denominator, ?_⟩
      rw [List.append_assoc]
      rfl
    · refine ⟨digitsOfNat inches ++ ' ' :: (digitsOfNat numerator ++ ['/']), denominator, ?_⟩
      rw [List.append_assoc, List.cons_append, List.append_assoc]
      rfl

end

/-- The feet with their mark, if they are not too long to be written. -/
theorem eq_of_feetPart {feet : Nat} {parts : List (List Char)} (h : feetPart feet = .ok parts) :
    parts = if feet = 0 then [] else [digitsOfNat feet ++ ['\'']] := by
  rw [feetPart] at h
  split at h
  · rename_i hfeet
    cases h
    rw [if_pos hfeet]
  · rename_i hfeet
    rw [if_neg hfeet]
    by_cases hlength : (digitsOfNat feet).length ≤ maxIntegerDigits
    · rw [boundedDigits, if_pos hlength] at h
      cases h
      rfl
    · rw [boundedDigits, if_neg hlength] at h
      cases h

/-- Feet with few enough digits are written. -/
theorem exists_feetInches {q : Quantity}
    (h : (digitsOfNat (q.whole / 12)).length ≤ maxIntegerDigits) :
    ∃ text : List Char, q.feetInches = .ok text := by
  have hparts : ∃ parts, feetPart (q.whole / 12) = .ok parts := by
    rw [feetPart, boundedDigits, if_pos h]
    split
    · exact ⟨_, rfl⟩
    · exact ⟨_, rfl⟩
  obtain ⟨parts, hparts⟩ := hparts
  rw [feetInches, hparts]
  split
  · exact ⟨_, rfl⟩
  · exact ⟨_, rfl⟩

/-- The text of a zero is that of no inches. -/
theorem bareFeetInches_of_isZero {q : Quantity} (h : q.isZero = true) :
    Decimal.signed q.negative q.bareFeetInches = ['0'] := by
  rw [isZero, Bool.and_eq_true, beq_iff_eq, beq_iff_eq] at h
  have hsign : q.negative = false := by
    rw [Bool.eq_false_iff]
    intro hnegative
    have := q.ne_zero_of_negative hnegative
    omega
  rw [bareFeetInches, bareInches, hsign, h.1, h.2]
  rfl

/-- What is displayed ends with an inch mark, except for a zero. -/
theorem eq_of_feetInches {q : Quantity} {text : List Char} (h : q.feetInches = .ok text) :
    text = Decimal.signed q.negative q.bareFeetInches ++ if q.isZero then [] else ['"'] := by
  rw [feetInches] at h
  by_cases hzero : q.isZero = true
  · rw [if_pos hzero] at h
    cases h
    rw [if_pos hzero, bareFeetInches_of_isZero hzero]
    rfl
  · rw [if_neg hzero] at h
    cases hparts : feetPart (q.whole / 12) with
    | error fault =>
      rw [hparts] at h
      cases h
    | ok parts =>
      rw [hparts] at h
      cases h
      rw [if_neg hzero, eq_of_feetPart hparts, inchPart_eq, bareFeetInches]
      generalize bareInches (q.whole % 12) q.numerator q.denominator = bare
      split
      · rw [List.nil_append, List.intercalate_singleton, Decimal.signed_append]
      · have htext : [' '].intercalate ([digitsOfNat (q.whole / 12) ++ ['\'']] ++ [bare ++ ['"']]) =
            (digitsOfNat (q.whole / 12) ++ '\'' :: ' ' :: bare) ++ ['"'] := by
          rw [List.singleton_append, List.intercalate_cons_cons, List.intercalate_singleton,
            List.append_assoc, List.append_assoc, List.append_assoc]
          rfl
        rw [htext, Decimal.signed_append]

/-- No other inch mark is displayed. -/
theorem filter_bareFeetInches (q : Quantity) :
    (Decimal.signed q.negative q.bareFeetInches).filter (· ≠ '"') =
      Decimal.signed q.negative q.bareFeetInches := by
  have hinches := isWritten_bareInches (q.whole % 12) q.numerator q.denominator
  have hfeet := isWritten_digitsOfNat (q.whole / 12)
  rw [bareFeetInches]
  split
  · exact filter_written (hinches.signed _)
  · rw [Decimal.signed_append, List.filter_append, filter_written (hfeet.signed _)]
    exact congrArg (fun rest => _ ++ '\'' :: ' ' :: rest) (filter_written hinches)

/-- What is entered again after a result in feet and inches. -/
theorem filter_feetInches {q : Quantity} {text : List Char} (h : q.feetInches = .ok text) :
    text.filter (· ≠ '"') = Decimal.signed q.negative q.bareFeetInches := by
  rw [eq_of_feetInches h, List.filter_append, filter_bareFeetInches]
  split
  · exact List.append_nil _
  · exact List.append_nil _

/-! ## How many digits are written -/

/-- Small numbers have few digits. -/
theorem length_digitsOfNat_le {n : Nat} (h : n < 100) :
    (digitsOfNat n).length ≤ maxLiteralDigits := by
  have : (digitsOfNat n).length ≤ 2 := (length_digitsOfNat_le_iff (by decide)).mpr h
  rw [maxLiteralDigits]
  omega

section

variable {inches numerator denominator : Nat}

theorem hasShortNumbers_bareInches (hinches : inches < 100) (hnumerator : numerator < 100)
    (hdenominator : denominator < 100) :
    HasShortNumbers maxLiteralDigits (bareInches inches numerator denominator) := by
  have hnumber : ∀ n, n < 100 → HasShortNumbers maxLiteralDigits (digitsOfNat n) := fun n hn =>
    (Numeral.hasShortNumbers_text (Numeral.proper_ofNat n)).mpr (length_digitsOfNat_le hn)
  have hbefore : ∀ n c rest, n < 100 → isNumeric c = false →
      HasShortNumbers maxLiteralDigits rest →
      HasShortNumbers maxLiteralDigits (digitsOfNat n ++ c :: rest) := fun n c rest hn hc hrest =>
    (Numeral.hasShortNumbers_text_append_cons (Numeral.proper_ofNat n) hc rest).mpr
      ⟨length_digitsOfNat_le hn, hrest⟩
  have hfraction := hbefore numerator '/' _ hnumerator rfl (hnumber denominator hdenominator)
  rw [bareInches]
  split
  · exact hnumber inches hinches
  · split
    · exact hfraction
    · exact hbefore inches ' ' _ hinches rfl hfraction

end

theorem bareInches_short (q : Quantity) :
    HasShortNumbers maxLiteralDigits (bareInches (q.whole % 12) q.numerator q.denominator) := by
  have hdenominator : q.denominator ≤ 16 := Nat.le_of_dvd (by decide) q.denominator_dvd
  have hnumerator := q.numerator_lt
  exact hasShortNumbers_bareInches (by omega) (by omega) (by omega)

theorem hasShortNumbers_signed (negative : Bool) (cs : List Char) :
    HasShortNumbers maxLiteralDigits (Decimal.signed negative cs) ↔
      HasShortNumbers maxLiteralDigits cs := by
  cases negative with
  | false => exact Iff.rfl
  | true => exact hasShortNumbers_cons cs rfl

/-- Only the feet can have too many digits. -/
theorem hasShortNumbers_bareFeetInches (q : Quantity) :
    HasShortNumbers maxLiteralDigits (Decimal.signed q.negative q.bareFeetInches) ↔
      (digitsOfNat (q.whole / 12)).length ≤ maxLiteralDigits := by
  rw [hasShortNumbers_signed, bareFeetInches]
  split
  · rename_i hfeet
    rw [hfeet]
    exact iff_of_true q.bareInches_short (by decide)
  · rw [← Numeral.digitCount_ofNat]
    refine (Numeral.hasShortNumbers_text_append_cons (Numeral.proper_ofNat _) rfl _).trans ?_
    rw [hasShortNumbers_cons _ rfl]
    exact and_iff_left q.bareInches_short

/-- The inch mark has no part in the numbers that are displayed. -/
theorem hasShortNumbers_feetInches {q : Quantity} {text : List Char}
    (h : q.feetInches = .ok text) :
    HasShortNumbers maxLiteralDigits text ↔
      HasShortNumbers maxLiteralDigits (Decimal.signed q.negative q.bareFeetInches) := by
  rw [eq_of_feetInches h]
  split
  · rw [List.append_nil]
  · exact (hasShortNumbers_append_cons rfl _ []).trans (and_iff_left hasShortNumbers_nil)

end Quantity

end TapeMeasure
