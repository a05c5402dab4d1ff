import TapeMeasure.Proofs.Except
import TapeMeasure.Proofs.Quantity.ReadBack
import TapeMeasure.Proofs.Quantity.TotalInches

/-!
# Answers that are entered again

An answer can be entered as a new expression, after its inch mark is taken out.  The new answer
shows the same quantity, unless a number of the old one has more digits than are read; then there
is none.

* `exists_display_of_answer`: the quantity that an answer shows.
* `calculate_of_writesAmount`: the answer to a text whose tokens write one quantity.
* `ReadsAs`: what becomes of a text that shows a quantity; `readsAs_feetInches` and
  `readsAs_totalInches` for the two kinds of displayed texts.
* `calculate_roundTrip`: what becomes of the text of an answer.
-/

namespace TapeMeasure

open Text Operand

/-! ## The quantity of an answer -/

theorem Quantity.display_eq (measurement : Bool) (q : Quantity) :
    q.display measurement = q.totalInches.bind fun total =>
      (if measurement then q.feetInches else .ok total).bind fun feet =>
        q.toDouble.bind fun decimal =>
          .ok ⟨String.ofList feet, String.ofList total, decimal⟩ := by
  cases measurement <;> rfl

/-- The forms of a displayed quantity. -/
theorem Quantity.display_eq_ok_iff {q : Quantity} {measurement : Bool} {shown : Display} :
    q.display measurement = .ok shown ↔
      ∃ (total feet : List Char) (decimal : Double), q.totalInches = .ok total ∧
        (if measurement then q.feetInches else .ok total) = .ok feet ∧
          q.toDouble = .ok decimal ∧
            shown = ⟨String.ofList feet, String.ofList total, decimal⟩ := by
  constructor
  · intro h
    rw [display_eq] at h
    obtain ⟨total, htotal, h⟩ := bind_eq_ok_iff.mp h
    obtain ⟨feet, hfeet, h⟩ := bind_eq_ok_iff.mp h
    obtain ⟨decimal, hdecimal, h⟩ := bind_eq_ok_iff.mp h
    exact ⟨total, feet, decimal, htotal, hfeet, hdecimal, (Except.ok.inj h).symm⟩
  · rintro ⟨total, feet, decimal, htotal, hfeet, hdecimal, rfl⟩
    rw [display_eq]
    refine bind_eq_ok_iff.mpr ⟨total, htotal, ?_⟩
    refine bind_eq_ok_iff.mpr ⟨feet, hfeet, ?_⟩
    exact bind_eq_ok_iff.mpr ⟨decimal, hdecimal, rfl⟩

/-- What an answer says about its quantity. -/
theorem display_of_answerOf {text : String} {measurement : Bool} {q : Quantity} {r : Result}
    (h : answerOf text measurement q = .answer r) :
    r.expression = text ∧
      q.display r.isInchMode = .ok ⟨r.feetInches, r.totalInches, r.decimal⟩ := by
  unfold answerOf at h
  split at h
  · rename_i shown hshown
    cases h
    exact ⟨rfl, hshown⟩
  · cases h
  · cases h

/-- An answer shows a quantity. -/
theorem exists_display_of_answer {text : String} {r : Result} (h : calculate text = .answer r) :
    ∃ q : Quantity, q.display r.isInchMode = .ok ⟨r.feetInches, r.totalInches, r.decimal⟩ := by
  rw [calculate] at h
  split at h
  · cases h
  · split at h
    · cases h
    · split at h
      · cases h
      · rename_i q hq
        exact ⟨q, (display_of_answerOf h).2⟩

/-! ## The answer to a displayed text -/

/-- Tokens that write the sign and the magnitude of a quantity give the answer that shows it. -/
theorem calculate_of_writesAmount {text : String} {tokens : List Token} {q : Quantity}
    (htokens : Token.ofText text = .ok tokens)
    (hwrites : WritesAmount tokens q.negative |q.toRat|) :
    calculate text = answerOf text (isMeasurement tokens) q := by
  obtain ⟨e, hexpression, hevaluate⟩ := Expression.evaluate_of_writesAmount hwrites
  simp only [calculate, htokens, hexpression, hevaluate]

theorem calculate_of_error {text : String} {fault : Token.Fault}
    (h : Token.ofText text = .error fault) :
    calculate text = .failure (.notTokens text fault) := by
  simp only [calculate, h]

theorem answerOf_of_display {text : String} {measurement : Bool} {q : Quantity}
    {shown : Quantity.Display} (h : q.display measurement = .ok shown) :
    answerOf text measurement q =
      .answer ⟨text, shown.decimal, shown.feetInches, shown.totalInches, measurement⟩ := by
  unfold answerOf
  rw [h]

/-! ## The displayed text -/

/-- What becomes of a displayed quantity when its text is entered again. Its tokens write the
quantity unless a number is too long, and then it can also be shown in feet and inches. -/
structure ReadsAs (again : List Char) (q : Quantity) (measurement : Bool) : Prop where
  of_short : HasShortNumbers Token.maxLiteralDigits again →
    ∃ tokens : List Token, Token.ofText (String.ofList again) = .ok tokens ∧
      WritesAmount tokens q.negative |q.toRat| ∧
        (measurement = true → isMeasurement tokens = true) ∧
          ∃ feet : List Char, q.feetInches = .ok feet
  of_long : ¬HasShortNumbers Token.maxLiteralDigits again →
    ∃ fault : Token.Fault, Token.ofText (String.ofList again) = .error fault

theorem readsAs_feetInches {q : Quantity} {feet : List Char} (h : q.feetInches = .ok feet) :
    ReadsAs (feet.filter (· ≠ '"')) q true := by
  rw [Quantity.filter_feetInches h]
  constructor
  · intro hshort
    rw [Quantity.hasShortNumbers_bareFeetInches] at hshort
    obtain ⟨tokens, htokens, hwrites, hplain⟩ := Quantity.exists_ofText_bareFeetInches hshort
    exact ⟨tokens, htokens, hwrites, fun _ => Token.isMeasurement_of_isPlain hplain, feet, h⟩
  · intro hlong
    rw [Quantity.hasShortNumbers_bareFeetInches, not_le] at hlong
    exact ⟨_, Quantity.ofText_bareFeetInches_tooLong hlong⟩

/-- A quantity with few digits has few feet. -/
theorem exists_feetInches_of_magnitude {q : Quantity} {n : Token.Numeral} (hn : n.Proper)
    (hmagnitude : n.value.magnitude = |q.toRat|)
    (hshort : n.digitCount ≤ Token.maxLiteralDigits) :
    ∃ feet : List Char, q.feetInches = .ok feet := by
  have hwhole : (q.whole : Rat) < ((10 ^ n.digitCount : Nat) : Rat) := by
    calc
      (q.whole : Rat) ≤ (q.whole : Rat) + (q.numerator : Rat) / q.denominator :=
        le_add_of_nonneg_right (div_nonneg (Nat.cast_nonneg _) (Nat.cast_nonneg _))
      _ = n.value.magnitude := by rw [hmagnitude, q.abs_toRat]
      _ < ((10 ^ n.digitCount : Nat) : Rat) := by
        rw [Nat.cast_pow]
        exact Token.Numeral.magnitude_value_lt hn
  have hfeet : q.whole / 12 < 10 ^ Token.maxLiteralDigits := by
    calc
      q.whole / 12 ≤ q.whole := Nat.div_le_self _ _
      _ < 10 ^ n.digitCount := by exact_mod_cast hwhole
      _ ≤ 10 ^ Token.maxLiteralDigits := Nat.pow_le_pow_right (by decide) hshort
  have hdigits : (digitsOfNat (q.whole / 12)).length ≤ Token.maxLiteralDigits :=
    (length_digitsOfNat_le_iff (by decide)).mpr hfeet
  exact Quantity.exists_feetInches (hdigits.trans (by decide))

theorem readsAs_totalInches {q : Quantity} {total : List Char} (h : q.totalInches = .ok total) :
    ReadsAs (total.filter (· ≠ '"')) q false := by
  obtain ⟨n, hn, htotal, hmagnitude⟩ := Quantity.exists_numeral_of_totalInches h
  rw [htotal, Token.filter_written ((Token.isWritten_text hn).signed _)]
  constructor
  · intro hshort
    rw [Quantity.hasShortNumbers_signed, Token.Numeral.hasShortNumbers_text hn] at hshort
    refine ⟨_, Token.ofText_numeral hn hshort, ?_, fun h => absurd h Bool.false_ne_true,
      exists_feetInches_of_magnitude hn hmagnitude hshort⟩
    rw [← hmagnitude, ← Token.Numeral.toRat_value]
    exact (writesInchAmount_number (n.literal hn) _ 0).alone
  · intro hlong
    rw [Quantity.hasShortNumbers_signed, Token.Numeral.hasShortNumbers_text hn, not_le] at hlong
    exact ⟨_, Token.ofText_numeral_tooLong hn hlong⟩

/-- A quantity that can be shown in feet and inches can be shown either way, with the same number
of inches. -/
theorem exists_display {q : Quantity} {total feet : List Char} {decimal : Double}
    (htotal : q.totalInches = .ok total) (hfeet : q.feetInches = .ok feet)
    (hdecimal : q.toDouble = .ok decimal) (measurement : Bool) :
    q.display measurement = .ok
      ⟨String.ofList (if measurement then feet else total), String.ofList total, decimal⟩ := by
  refine Quantity.display_eq_ok_iff.mpr ⟨total, _, decimal, htotal, ?_, hdecimal, rfl⟩
  cases measurement with
  | false => rfl
  | true => exact hfeet

/-- An answer that is entered again without its inch marks gives an answer that shows the same
quantity if all its numbers have 64 digits at most, and fails otherwise. -/
theorem calculate_roundTrip {text : String} {r : Result} (h : calculate text = .answer r) :
    (HasShortNumbers 64 (Keypad.Session.withoutInchMarks r.feetInches).toList →
      ∃ s : Result,
        calculate (Keypad.Session.withoutInchMarks r.feetInches) = .answer s ∧
          s.totalInches = r.totalInches ∧ s.decimal = r.decimal ∧
            (r.isInchMode = true → s.isInchMode = true ∧ s.feetInches = r.feetInches)) ∧
      (¬HasShortNumbers 64 (Keypad.Session.withoutInchMarks r.feetInches).toList →
        ∃ event : Failure,
          calculate (Keypad.Session.withoutInchMarks r.feetInches) = .failure event) := by
  obtain ⟨q, hq⟩ := exists_display_of_answer h
  obtain ⟨total, feet, decimal, htotal, hfeet, hdecimal, hshown⟩ :=
    Quantity.display_eq_ok_iff.mp hq
  simp only [Quantity.Display.mk.injEq] at hshown
  obtain ⟨hrfeet, hrtotal, rfl⟩ := hshown
  have hagain : Keypad.Session.withoutInchMarks r.feetInches =
      String.ofList (feet.filter (· ≠ '"')) := by
    rw [Keypad.Session.withoutInchMarks, hrfeet, String.toList_ofList]
  have hreads : ReadsAs (feet.filter (· ≠ '"')) q r.isInchMode := by
    cases hmode : r.isInchMode with
    | false =>
      rw [hmode, if_neg Bool.false_ne_true, Except.ok.injEq] at hfeet
      rw [← hfeet]
      exact readsAs_totalInches htotal
    | true =>
      rw [hmode, if_pos rfl] at hfeet
      exact readsAs_feetInches hfeet
  rw [hagain, String.toList_ofList]
  constructor
  · intro hshort
    obtain ⟨tokens, htokens, hwrites, hmode, feetAgain, hfeetAgain⟩ := hreads.of_short hshort
    have hdisplay := exists_display htotal hfeetAgain hdecimal (isMeasurement tokens)
    have hcalculate := calculate_of_writesAmount htokens hwrites
    rw [answerOf_of_display hdisplay] at hcalculate
    refine ⟨_, hcalculate, hrtotal.symm, rfl, fun hinch => ⟨hmode hinch, ?_⟩⟩
    have hsame : feetAgain = feet := by
      rw [hinch, if_pos rfl, hfeetAgain] at hfeet
      exact Except.ok.inj hfeet
    show String.ofList (if isMeasurement tokens then feetAgain else total) = r.feetInches
    rw [hmode hinch, if_pos rfl, hsame, hrfeet]
  · intro hlong
    obtain ⟨fault, hfault⟩ := hreads.of_long hlong
    exact ⟨_, calculate_of_error hfault⟩

/-- The answer to minus three feet, two and a half inches. -/
def threeFeetResult : Result :=
  ⟨"-3' 2 1/2", .finite true (77 * Nat.pow 2 1073), "-3' 2 1/2\"", "-38.5", true⟩

theorem calculate_roundTrip_threeFeet :
    calculate "-3' 2 1/2" = .answer threeFeetResult ∧
      ∃ s : Result,
        calculate (Keypad.Session.withoutInchMarks "-3' 2 1/2\"") = .answer s ∧
          s.totalInches = "-38.5" ∧ s.decimal = threeFeetResult.decimal ∧
            s.isInchMode = true ∧ s.feetInches = "-3' 2 1/2\"" := by
  have hcalculate : calculate "-3' 2 1/2" = .answer threeFeetResult := by decide +kernel
  have hruns : ∀ run ∈ numericRuns (Keypad.Session.withoutInchMarks "-3' 2 1/2\"").toList,
      run.countP Char.isDigit ≤ 64 := by decide +kernel
  obtain ⟨s, hs, htotal, hdecimal, hinch⟩ := (calculate_roundTrip hcalculate).1 hruns
  exact ⟨hcalculate, s, hs, htotal, hdecimal, hinch rfl⟩

end TapeMeasure
