import Mathlib.Data.List.Basic
import TapeMeasure.Keypad
import TapeMeasure.Proofs.Token.Scan

/-!
# Texts that reach the scan unchanged

Before a text is scanned it is trimmed and its marks are made plain, and inch marks are taken out
of a displayed text before it is entered again.  Texts of digits, points, signs, slashes and spaces
pass through all of this as they are, and so does a single feet mark between them.

* `isWritten`, `IsWritten`: the characters, and the texts that consist of them.
* `plainMarks_written`, `plainMarks_feet`, `filter_written`: what happens to the marks.
* `ofText_signed`: the tokens of such a text are those of its scan.
-/

namespace TapeMeasure

open Text

namespace Token

/-- Whether a character occurs in displayed numbers and fractions. -/
def isWritten (c : Char) : Bool :=
  isNumeric c || c == '-' || c == '/' || c == ' '

/-- A text of digits, points, signs, slashes and spaces. -/
def IsWritten (cs : List Char) : Prop :=
  ∀ c ∈ cs, isWritten c = true

theorem isWritten_of_isNumeric {c : Char} (hc : isNumeric c = true) : isWritten c = true := by
  rw [isWritten, hc, Bool.true_or, Bool.true_or, Bool.true_or]

/-- None of the characters is a mark. -/
theorem ne_of_isWritten {c d : Char} (hc : isWritten c = true) (hd : isWritten d = false) :
    c ≠ d := by
  rintro rfl
  rw [hc] at hd
  cases hd

theorem notMem_of_isWritten {c : Char} (hc : isWritten c = true) {marks : List Char}
    (hmarks : marks.any isWritten = false) : c ∉ marks :=
  fun hmem => List.any_eq_false.mp hmarks c hmem hc

section

variable {cs ds : List Char}

theorem isWritten_append : IsWritten (cs ++ ds) ↔ IsWritten cs ∧ IsWritten ds :=
  List.forall_mem_append

theorem isWritten_cons {c : Char} : IsWritten (c :: cs) ↔ isWritten c = true ∧ IsWritten cs :=
  List.forall_mem_cons

theorem IsWritten.signed (h : IsWritten cs) (negative : Bool) :
    IsWritten (Decimal.signed negative cs) := by
  cases negative with
  | false => exact h
  | true => exact isWritten_cons.mpr ⟨rfl, h⟩

theorem isWritten_digitsOfNat (n : Nat) : IsWritten (digitsOfNat n) := by
  intro c hc
  have hdigit : isNumeric c = true := by
    rw [isNumeric, isDigit_of_mem_digitsOfNat hc, Bool.true_or]
  exact isWritten_of_isNumeric hdigit

theorem isWritten_text {n : Numeral} (hn : n.Proper) : IsWritten n.text :=
  fun c hc => isWritten_of_isNumeric (Numeral.isNumeric_of_mem_text hn c hc)

theorem isWritten_fractionText (numerator denominator : Nat) :
    IsWritten (Quantity.fractionText numerator denominator) :=
  isWritten_append.mpr ⟨isWritten_digitsOfNat _, isWritten_cons.mpr ⟨rfl, isWritten_digitsOfNat _⟩⟩

/-! ## Marks -/

theorem plainMarks_written (h : IsWritten cs) (rest : List Char) :
    plainMarks (cs ++ rest) = cs ++ plainMarks rest := by
  apply plainMarks_append
  intro c hc
  exact ⟨ne_of_isWritten (h c hc) rfl, notMem_of_isWritten (h c hc) rfl,
    notMem_of_isWritten (h c hc) rfl⟩

/-- A feet mark before a space is no half of an inch mark. -/
theorem plainMarks_feet (hcs : IsWritten cs) (hds : IsWritten ds) :
    plainMarks (cs ++ '\'' :: ' ' :: ds) = cs ++ '\'' :: ' ' :: ds := by
  have hrest : plainMarks (ds ++ []) = ds ++ [] := plainMarks_written hds []
  rw [List.append_nil] at hrest
  rw [plainMarks_written hcs, plainMarks.eq_3 _ _ (by intro _ _ h; cases h),
    plainMarks.eq_3 _ _ (by intro _ h; cases h), hrest]
  rfl

/-- Only the inch marks are taken out. -/
theorem filter_written (h : IsWritten cs) : cs.filter (· ≠ '"') = cs := by
  rw [List.filter_eq_self]
  intro c hc
  exact decide_eq_true (ne_of_isWritten (h c hc) rfl)

/-! ## The tokens of a signed text -/

/-- A signed text that starts with a number and does not end with a blank is not trimmed. -/
theorem trim_signed {negative : Bool} (hstart : startsNumber cs = true)
    (hlast : ∀ c ∈ cs.getLast?, isBlank c = false) :
    trim (Decimal.signed negative cs) = Decimal.signed negative cs := by
  cases cs with
  | nil => cases hstart
  | cons c cs =>
    cases negative with
    | false =>
      refine trim_eq_self ?_ hlast
      intro d hd
      rw [← Option.some.inj hd]
      exact isBlank_eq_false_of_isNumeric (isNumeric_of_startsNumber hstart)
    | true =>
      refine trim_eq_self ?_ ?_
      · intro d hd
        rw [← Option.some.inj hd]
        rfl
      · intro d hd
        refine hlast d ?_
        rwa [← List.getLast?_cons_cons (a := '-')]

/-- The tokens of a signed text are those of its scan. -/
theorem ofText_signed {negative : Bool} (hstart : startsNumber cs = true)
    (hlast : ∀ c ∈ cs.getLast?, isBlank c = false)
    (hmarks : plainMarks (Decimal.signed negative cs) = Decimal.signed negative cs) :
    ofText (String.ofList (Decimal.signed negative cs)) =
      scan 0 false (Decimal.signed negative cs) := by
  rw [ofText, String.toList_ofList, trim_signed hstart hlast, hmarks]

/-- The last character of digits is no blank. -/
theorem isBlank_getLast_digitsOfNat (cs : List Char) (n : Nat) :
    ∀ c ∈ (cs ++ digitsOfNat n).getLast?, isBlank c = false := by
  intro c hc
  rw [List.getLast?_append_of_ne_nil _ (digitsOfNat_ne_nil n)] at hc
  exact isBlank_eq_false_of_isDigit (isDigit_of_mem_digitsOfNat (List.mem_of_mem_getLast? hc))

end

end Token

end TapeMeasure
