import TapeMeasure.Proofs.Token.Numeral
import TapeMeasure.Quantity.Display
import TapeMeasure.Text.NumericRun

/-!
# Scanning what is written

The scan of a text that starts with a number, a number with a feet mark or a fraction, each with a
sign or without, in terms of the scan of what follows it.

* `EndsNumber`, `EndsWord`: what may follow a number without becoming part of it.
* `Numeral.ofFront_append`: a numeral is read back as it was written.
* `scan_blank`, `scan_number`, `scan_feet`, `scan_fraction`: one step of the scan for each way in
  which a text may start.
* `scan_tooLong`: no text starts with a number that has too many digits.
-/

namespace TapeMeasure

open Text

namespace Token

/-! ## The end of a number -/

/-- A number ends here: what follows starts with neither a digit nor a point. -/
def EndsNumber (rest : List Char) : Prop :=
  ∀ c ∈ rest.head?, isNumeric c = false

/-- A word ends here: nothing follows, or a blank. -/
def EndsWord (rest : List Char) : Prop :=
  ∀ c ∈ rest.head?, isBlank c = true

theorem endsNumber_cons {c : Char} (hc : isNumeric c = false) (cs : List Char) :
    EndsNumber (c :: cs) := by
  intro d hd
  rwa [← Option.some.inj hd]

theorem endsWord_nil : EndsWord [] := by
  intro c hc
  cases hc

theorem endsWord_cons {c : Char} (hc : isBlank c = true) (cs : List Char) :
    EndsWord (c :: cs) := by
  intro d hd
  rwa [← Option.some.inj hd]

/-- No character of a number is blank. -/
theorem isNumeric_eq_false_of_isBlank {c : Char} (hc : isBlank c = true) : isNumeric c = false := by
  rw [isNumeric, Bool.or_eq_false_iff, beq_eq_false_iff_ne]
  constructor
  · rw [Bool.eq_false_iff]
    intro hdigit
    rw [isBlank_eq_false_of_isDigit hdigit] at hc
    cases hc
  · rintro rfl
    exact absurd hc (by decide)

theorem isBlank_eq_false_of_isNumeric {c : Char} (hc : isNumeric c = true) :
    isBlank c = false := by
  rw [Bool.eq_false_iff]
  intro hblank
  rw [isNumeric_eq_false_of_isBlank hblank] at hc
  cases hc

theorem EndsWord.endsNumber {rest : List Char} (h : EndsWord rest) : EndsNumber rest :=
  fun c hc => isNumeric_eq_false_of_isBlank (h c hc)

theorem isDigit_eq_false_of_isNumeric {c : Char} (hc : isNumeric c = false) :
    c.isDigit = false := by
  rw [isNumeric, Bool.or_eq_false_iff] at hc
  exact hc.1

/-! ## Digits and numerals at the front -/

theorem takeWhile_isDigit_append {digits rest : List Char}
    (hdigits : ∀ c ∈ digits, c.isDigit = true) (hrest : ∀ c ∈ rest.head?, c.isDigit = false) :
    (digits ++ rest).takeWhile Char.isDigit = digits := by
  rw [List.takeWhile_append_of_pos hdigits]
  cases rest with
  | nil => rw [List.takeWhile_nil, List.append_nil]
  | cons c rest =>
    have hc : c.isDigit = false := hrest c rfl
    rw [List.takeWhile_cons_of_neg (by rw [hc]; decide), List.append_nil]

theorem dropWhile_isDigit_append {digits rest : List Char}
    (hdigits : ∀ c ∈ digits, c.isDigit = true) (hrest : ∀ c ∈ rest.head?, c.isDigit = false) :
    (digits ++ rest).dropWhile Char.isDigit = rest := by
  rw [List.dropWhile_append_of_pos hdigits]
  cases rest with
  | nil => rfl
  | cons c rest =>
    have hc : c.isDigit = false := hrest c rfl
    rw [List.dropWhile_cons_of_neg (by rw [hc]; decide)]

theorem startsNumber_cons {c : Char} (hc : c.isDigit = true) (cs : List Char) :
    startsNumber (c :: cs) = true := by
  unfold startsNumber
  split
  · rename_i heq
    rw [(List.cons.inj heq).1] at hc
    exact absurd hc (by decide)
  · rename_i heq
    rwa [← (List.cons.inj heq).1]
  · rename_i heq
    cases heq

/-- A number starts with a digit or a point. -/
theorem isNumeric_of_startsNumber {c : Char} {cs : List Char}
    (h : startsNumber (c :: cs) = true) : isNumeric c = true := by
  rw [isNumeric, Bool.or_eq_true, beq_iff_eq]
  unfold startsNumber at h
  split at h
  · rename_i heq
    exact Or.inr (List.cons.inj heq).1
  · rename_i heq
    rw [(List.cons.inj heq).1]
    exact Or.inl h
  · rename_i heq
    cases heq

namespace Numeral

theorem length_text_pos {n : Numeral} (hn : n.Proper) : 0 < n.text.length := by
  obtain ⟨whole, _ | places⟩ := n
  · have hwhole := hn.nonempty
    rw [placeDigits, Option.getD_none, List.append_nil] at hwhole
    exact List.length_pos_iff.mpr hwhole
  · rw [text, List.length_append, List.length_cons]
    omega

theorem startsNumber_text_append {n : Numeral} (hn : n.Proper) (rest : List Char) :
    startsNumber (n.text ++ rest) = true := by
  obtain ⟨whole, places⟩ := n
  cases whole with
  | cons c whole =>
    have hc : c.isDigit = true := hn.whole_digits c List.mem_cons_self
    cases places with
    | none => exact startsNumber_cons hc _
    | some places => exact startsNumber_cons hc _
  | nil =>
    obtain _ | _ | ⟨c, places⟩ := places
    · exact absurd rfl hn.nonempty
    · exact absurd rfl hn.nonempty
    · exact hn.place_digits c List.mem_cons_self

/-- A numeral is read back as it was written. -/
theorem ofFront_append {n : Numeral} (hn : n.Proper) {rest : List Char} (hrest : EndsNumber rest) :
    ofFront (n.text ++ rest) = n := by
  have hend : ∀ c ∈ rest.head?, c.isDigit = false :=
    fun c hc => isDigit_eq_false_of_isNumeric (hrest c hc)
  obtain ⟨whole, _ | places⟩ := n
  · have hplaces : rest.head? ≠ some '.' := by
      intro hpoint
      exact absurd (hrest '.' hpoint) (by decide)
    rw [ofFront]
    simp only [text, takeWhile_isDigit_append hn.whole_digits hend,
      dropWhile_isDigit_append hn.whole_digits hend]
    split
    · exact absurd rfl hplaces
    · rfl
  · have hpoint : ∀ c ∈ ('.' :: (places ++ rest)).head?, c.isDigit = false := by
      intro c hc
      rw [← Option.some.inj hc]
      rfl
    have hplaces : (places ++ rest).takeWhile Char.isDigit = places :=
      takeWhile_isDigit_append hn.place_digits hend
    have htext : (⟨whole, some places⟩ : Numeral).text ++ rest =
        whole ++ '.' :: (places ++ rest) := by
      rw [text, List.append_assoc, List.cons_append]
    rw [htext, ofFront, takeWhile_isDigit_append hn.whole_digits hpoint,
      dropWhile_isDigit_append hn.whole_digits hpoint]
    simp only [hplaces]

end Numeral

/-! ## One lexeme -/

section

variable {n : Numeral} {rest : List Char} {negative : Bool} {start position : Nat}

/-- A numeral with too many digits is no lexeme, whatever follows. -/
theorem numberLexeme_tooLong (hn : n.Proper) (hrest : EndsNumber rest)
    (hlong : maxLiteralDigits < n.digitCount) (h : startsNumber (n.text ++ rest) = true) :
    numberLexeme negative start position (n.text ++ rest) h =
      .error ⟨.numberTooLong, position⟩ := by
  rw [numberLexeme]
  simp only [Numeral.ofFront_append hn hrest, if_pos hlong]

theorem numberLexeme_word (hn : n.Proper) (hrest : EndsWord rest)
    (hshort : n.digitCount ≤ maxLiteralDigits) (h : startsNumber (n.text ++ rest) = true) :
    numberLexeme negative start position (n.text ++ rest) h =
      .ok ⟨[.number (n.literal hn) negative start], n.text.length - 1⟩ := by
  have hdrop : (n.text ++ rest).drop n.text.length = rest := List.drop_left
  rw [numberLexeme]
  simp only [Numeral.ofFront_append hn hrest.endsNumber, hdrop, if_neg (not_lt.mpr hshort)]
  split
  · exact absurd (hrest '/' rfl) (by decide)
  · exact absurd (hrest '\'' rfl) (by decide)
  · rfl

theorem numberLexeme_feet (hn : n.Proper) (hshort : n.digitCount ≤ maxLiteralDigits)
    (h : startsNumber (n.text ++ '\'' :: rest) = true) :
    numberLexeme negative start position (n.text ++ '\'' :: rest) h =
      .ok ⟨[.number (n.literal hn) negative start, .feetMark (position + n.text.length)],
        n.text.length⟩ := by
  have hrest : EndsNumber ('\'' :: rest) := endsNumber_cons (by decide) rest
  have hdrop : (n.text ++ '\'' :: rest).drop n.text.length = '\'' :: rest := List.drop_left
  rw [numberLexeme]
  simp only [Numeral.ofFront_append hn hrest, hdrop, if_neg (not_lt.mpr hshort)]

/-- The ratio of two natural numbers. -/
def ratioOf (numerator denominator : Nat) (h : 0 < denominator) : Ratio :=
  ⟨numerator, denominator, h⟩

theorem fractionLexeme_eq {numerator denominator slash : Nat} (hpos : 0 < denominator)
    (hrest : EndsWord rest) (hshort : (digitsOfNat denominator).length ≤ maxLiteralDigits) :
    fractionLexeme negative start slash numerator (digitsOfNat denominator ++ rest) =
      .ok ⟨[.fraction (ratioOf numerator denominator hpos) negative start],
        (digitsOfNat denominator).length⟩ := by
  have hend : ∀ c ∈ rest.head?, c.isDigit = false :=
    fun c hc => isDigit_eq_false_of_isNumeric (hrest.endsNumber c hc)
  have hdigits : ∀ c ∈ digitsOfNat denominator, c.isDigit = true :=
    fun c hc => isDigit_of_mem_digitsOfNat hc
  have hmark : rest.head? ≠ some '\'' := by
    intro hhead
    exact absurd (hrest '\'' hhead) (by decide)
  rw [fractionLexeme]
  simp only [takeWhile_isDigit_append hdigits hend, dropWhile_isDigit_append hdigits hend,
    natOfDigits_digitsOfNat]
  rw [if_neg (digitsOfNat_ne_nil _), if_neg (not_lt.mpr hshort), dif_neg hpos.ne', if_neg hmark]
  rfl

theorem numberLexeme_fraction {numerator denominator : Nat} (hpos : 0 < denominator)
    (hrest : EndsWord rest) (hnumerator : (digitsOfNat numerator).length ≤ maxLiteralDigits)
    (hdenominator : (digitsOfNat denominator).length ≤ maxLiteralDigits)
    (h : startsNumber (Quantity.fractionText numerator denominator ++ rest) = true) :
    numberLexeme negative start position (Quantity.fractionText numerator denominator ++ rest) h =
      .ok ⟨[.fraction (ratioOf numerator denominator hpos) negative start],
        (digitsOfNat numerator).length + (digitsOfNat denominator).length⟩ := by
  have hslash : EndsNumber ('/' :: (digitsOfNat denominator ++ rest)) :=
    endsNumber_cons (by decide) _
  have htext : Quantity.fractionText numerator denominator ++ rest =
      (Numeral.ofNat numerator).text ++ '/' :: (digitsOfNat denominator ++ rest) := by
    rw [Quantity.fractionText, List.append_assoc]
    rfl
  have hdrop : ((Numeral.ofNat numerator).text ++ '/' :: (digitsOfNat denominator ++ rest)).drop
      (Numeral.ofNat numerator).text.length = '/' :: (digitsOfNat denominator ++ rest) :=
    List.drop_left
  have hshort : ¬maxLiteralDigits < (Numeral.ofNat numerator).digitCount := not_lt.mpr hnumerator
  rw [numberLexeme]
  simp only [htext, Numeral.ofFront_append (Numeral.proper_ofNat numerator) hslash, hdrop,
    if_neg hshort]
  show (fractionLexeme negative start _ (natOfDigits (digitsOfNat numerator))
    (digitsOfNat denominator ++ rest)).map _ = _
  rw [natOfDigits_digitsOfNat, fractionLexeme_eq hpos hrest hdenominator]
  rfl

/-- A signed text that starts with a number starts with the lexeme of the number. -/
theorem scan_signed {cs : List Char} (h : startsNumber cs = true) {afterOperand : Bool}
    (hsign : negative = true → afterOperand = false) :
    scan start afterOperand (Decimal.signed negative cs) =
      (numberLexeme negative start (start + negative.toNat) cs h).bind fun first =>
        (scan (start + negative.toNat + 1 + first.more) (endsOperand afterOperand first.tokens)
          (cs.drop (first.more + 1))).map (first.tokens ++ ·) := by
  cases cs with
  | nil => cases h
  | cons c cs =>
    cases negative with
    | false =>
      have hblank : isBlank c = false :=
        isBlank_eq_false_of_isNumeric (isNumeric_of_startsNumber h)
      have hlexeme : lexeme start afterOperand c cs =
          numberLexeme false start start (c :: cs) h := by
        rw [lexeme, if_neg (by rw [hblank]; decide), dif_pos h]
      show scan start afterOperand (c :: cs) = _
      rw [scan_cons, hlexeme]
      rfl
    | true =>
      obtain rfl : afterOperand = false := hsign rfl
      have hlexeme : lexeme start false '-' (c :: cs) =
          (numberLexeme true start (start + 1) (c :: cs) h).map
            fun number => { number with more := number.more + 1 } := by
        rw [lexeme, if_neg (by decide), dif_neg, dif_pos ⟨rfl, rfl, h⟩]
        intro hminus
        exact absurd (isNumeric_of_startsNumber hminus) (by decide)
      show scan start false ('-' :: c :: cs) = _
      rw [scan_cons, hlexeme, Bool.toNat_true]
      cases numberLexeme true start (start + 1) (c :: cs) h with
      | error fault => rfl
      | ok first =>
        show (scan (start + 1 + (first.more + 1)) _ _).map _ =
          (scan (start + 1 + 1 + first.more) _ _).map _
        rw [Nat.add_right_comm (start + 1) 1 first.more]
        rfl

end

/-! ## The scan of a text -/

section

variable {rest : List Char} {negative afterOperand : Bool}

/-- Blanks are skipped. -/
theorem scan_blank {c : Char} (hc : isBlank c = true) (start : Nat) :
    scan start afterOperand (c :: rest) = scan (start + 1) afterOperand rest := by
  have hlexeme : lexeme start afterOperand c rest = .ok ⟨[], 0⟩ := by
    rw [lexeme, if_pos hc]
  rw [scan_cons, hlexeme]
  show (scan (start + 1) afterOperand rest).map ([] ++ ·) = _
  cases scan (start + 1) afterOperand rest <;> rfl

/-- A literal that is too long stops the scan. -/
theorem scan_tooLong {n : Numeral} (hn : n.Proper) (hrest : EndsNumber rest)
    (hlong : maxLiteralDigits < n.digitCount) (hsign : negative = true → afterOperand = false)
    (start : Nat) :
    scan start afterOperand (Decimal.signed negative (n.text ++ rest)) =
      .error ⟨.numberTooLong, start + negative.toNat⟩ := by
  have hstart := Numeral.startsNumber_text_append hn rest
  rw [scan_signed hstart hsign, numberLexeme_tooLong hn hrest hlong hstart]
  rfl

/-- A number at the end of a word. -/
theorem scan_number {n : Numeral} (hn : n.Proper) (hrest : EndsWord rest)
    (hshort : n.digitCount ≤ maxLiteralDigits) (hsign : negative = true → afterOperand = false)
    (start : Nat) :
    scan start afterOperand (Decimal.signed negative (n.text ++ rest)) =
      (scan (start + negative.toNat + n.text.length) true rest).map
        (.number (n.literal hn) negative start :: ·) := by
  have hstart := Numeral.startsNumber_text_append hn rest
  have hlength : n.text.length - 1 + 1 = n.text.length :=
    Nat.sub_add_cancel (Numeral.length_text_pos hn)
  rw [scan_signed hstart hsign, numberLexeme_word hn hrest hshort hstart]
  show (scan (start + negative.toNat + 1 + (n.text.length - 1)) true
    ((n.text ++ rest).drop (n.text.length - 1 + 1))).map _ = _
  rw [add_assoc _ 1, add_comm 1, hlength, List.drop_left]
  rfl

/-- A number with a feet mark. -/
theorem scan_feet {n : Numeral} (hn : n.Proper) (hshort : n.digitCount ≤ maxLiteralDigits)
    (hsign : negative = true → afterOperand = false) (start : Nat) (rest : List Char) :
    scan start afterOperand (Decimal.signed negative (n.text ++ '\'' :: rest)) =
      (scan (start + negative.toNat + 1 + n.text.length) true rest).map
        ([.number (n.literal hn) negative start,
          .feetMark (start + negative.toNat + n.text.length)] ++ ·) := by
  have hstart := Numeral.startsNumber_text_append hn ('\'' :: rest)
  have hdrop : (n.text ++ '\'' :: rest).drop (n.text.length + 1) = rest := by
    rw [← List.drop_drop, List.drop_left]
    rfl
  rw [scan_signed hstart hsign, numberLexeme_feet hn hshort hstart]
  show (scan (start + negative.toNat + 1 + n.text.length) true
    ((n.text ++ '\'' :: rest).drop (n.text.length + 1))).map _ = _
  rw [hdrop]

/-- A fraction at the end of a word. -/
theorem scan_fraction {numerator denominator : Nat} (hpos : 0 < denominator)
    (hrest : EndsWord rest) (hnumerator : (digitsOfNat numerator).length ≤ maxLiteralDigits)
    (hdenominator : (digitsOfNat denominator).length ≤ maxLiteralDigits)
    (hsign : negative = true → afterOperand = false) (start : Nat) :
    scan start afterOperand
        (Decimal.signed negative (Quantity.fractionText numerator denominator ++ rest)) =
      (scan (start + negative.toNat + (Quantity.fractionText numerator denominator).length) true
        rest).map (.fraction (ratioOf numerator denominator hpos) negative start :: ·) := by
  have hstart : startsNumber (Quantity.fractionText numerator denominator ++ rest) = true := by
    rw [Quantity.fractionText, List.append_assoc]
    exact Numeral.startsNumber_text_append (Numeral.proper_ofNat numerator) _
  have hlength : (Quantity.fractionText numerator denominator).length =
      (digitsOfNat numerator).length + (digitsOfNat denominator).length + 1 := by
    rw [Quantity.fractionText, List.length_append, List.length_cons]
    omega
  rw [scan_signed hstart hsign,
    numberLexeme_fraction hpos hrest hnumerator hdenominator hstart]
  show (scan (start + negative.toNat + 1 +
    ((digitsOfNat numerator).length + (digitsOfNat denominator).length)) true
    ((Quantity.fractionText numerator denominator ++ rest).drop
      ((digitsOfNat numerator).length + (digitsOfNat denominator).length + 1))).map _ = _
  rw [add_assoc _ 1, add_comm 1, ← hlength, List.drop_left]
  rfl

end

end Token

end TapeMeasure
