import TapeMeasure.Proofs.Expression.Sign
import TapeMeasure.Proofs.Keypad.Memory
import TapeMeasure.Proofs.Token.Occurrence

/-!
# How continued answers are shown

Whether an answer is shown in feet and inches depends on the tokens that it is calculated from.  An
operator pressed after an answer keeps the displayed text, without its inch mark, in place of the
expression.  The text may have other kinds of tokens than the expression had, so the next answer may
be shown in another way than that of the whole expression.

* `isMeasurement_append_iff`: the kinds of tokens that ask for feet and inches.
* `isInchMode_continuedText`: the tokens of a continued text decide how its answer is shown.
* `Quantity.display_agree_iff`: when two displays of a quantity are the same.
* `exists_tokens_continuation`: the tokens of a displayed text.
* `KeepsMode`, `keepsMode_iff`: when the displayed text stands for the expression.
* `goOn_isInchMode_iff`: when a continued answer is shown like that of the whole expression.
-/

namespace TapeMeasure

open Text

namespace Token

/-! ## Kinds of tokens -/

/-- A kind of tokens occurs among tokens wherever they stand. -/
theorem any_eq_of_unplaced {kind : Token → Bool} (hkind : ∀ token, kind token.unplaced = kind token)
    {moved tokens : List Token} (h : moved.map unplaced = tokens.map unplaced) :
    moved.any kind = tokens.any kind := by
  have hmap : ∀ xs : List Token, (xs.map unplaced).any kind = xs.any kind := by
    intro xs
    rw [List.any_map]
    exact congrArg xs.any (funext hkind)
  rw [← hmap moved, h, hmap]

theorem isMeasure_unplaced (token : Token) : token.unplaced.isMeasure = token.isMeasure := by
  cases token <;> rfl

theorem isPercent_unplaced (token : Token) : token.unplaced.isPercent = token.isPercent := by
  cases token <;> rfl

theorem isPointed_unplaced (token : Token) : token.unplaced.isPointed = token.isPointed := by
  cases token <;> rfl

/-- An operator is of no kind, and the kinds of the tokens behind it do not depend on their
places. -/
theorem isMeasurement_append_operator {tokens behind moved : List Token}
    (h : moved.map unplaced = behind.map unplaced) (op : Operator) (position : Nat) :
    isMeasurement (tokens ++ .operator op position :: moved) =
      isMeasurement (tokens ++ behind) := by
  simp only [isMeasurement, List.any_append, List.any_cons, isMeasure, isPercent, isPointed,
    Bool.false_or, any_eq_of_unplaced isMeasure_unplaced h,
    any_eq_of_unplaced isPercent_unplaced h, any_eq_of_unplaced isPointed_unplaced h]

/-- Whether there is a mark for feet or inches or a fraction among tokens. -/
def HasMeasure (tokens : List Token) : Prop :=
  ∃ token ∈ tokens, token.isMeasure = true

theorem isMeasurement_iff {tokens : List Token} :
    isMeasurement tokens = true ↔ HasMeasure tokens ∨ IsPlain tokens := by
  simp [isMeasurement, HasMeasure, IsPlain, forall_and]

theorem isMeasurement_append_iff {tokens behind : List Token} :
    isMeasurement (tokens ++ behind) = true ↔
      HasMeasure tokens ∨ HasMeasure behind ∨ (IsPlain tokens ∧ IsPlain behind) := by
  have hmeasure : HasMeasure (tokens ++ behind) ↔ HasMeasure tokens ∨ HasMeasure behind := by
    simp only [HasMeasure, List.mem_append, or_and_right, exists_or]
  have hplain : IsPlain (tokens ++ behind) ↔ IsPlain tokens ∧ IsPlain behind :=
    List.forall_mem_append
  rw [isMeasurement_iff, hmeasure, hplain, or_assoc]

/-- Without operators, feet, inches and fractions are what is written with their marks. -/
theorem hasMeasure_iff {tokens : List Token}
    (hoperator : ∀ token ∈ tokens, token.isOperator = false) :
    HasMeasure tokens ↔ HasFeet tokens ∨ HasInches tokens ∨ HasRatio tokens := by
  constructor
  · rintro ⟨token, hmem, hmeasure⟩
    cases token with
    | feetMark => exact Or.inl ⟨_, hmem, rfl⟩
    | inchMark => exact Or.inr (Or.inl ⟨_, hmem, rfl⟩)
    | fraction => exact Or.inr (Or.inr ⟨_, hmem, rfl⟩)
    | number | operator | percent => cases hmeasure
  · rintro (⟨token, hmem, hkind⟩ | ⟨token, hmem, hkind⟩ | ⟨token, hmem, hkind⟩)
    · cases token <;> cases hkind
      exact ⟨_, hmem, rfl⟩
    · cases token <;> cases hkind
      exact ⟨_, hmem, rfl⟩
    · cases token with
      | fraction => exact ⟨_, hmem, rfl⟩
      | operator => cases hoperator _ hmem
      | number | feetMark | inchMark | percent => cases hkind

end Token

/-! ## How an answer is shown -/

variable {text front back : String} {tokens behind : List Token} {r next whole : Result}
  {q : Quantity} {op : Operator} {k : String} {operand : Operand}

theorem isInchMode_of_answer (h : calculate text = .answer r)
    (htokens : Token.ofText text = .ok tokens) : r.isInchMode = isMeasurement tokens := by
  rw [calculate] at h
  simp only [htokens] at h
  split at h
  · cases h
  · split at h
    · cases h
    · unfold answerOf at h
      split at h
      · cases h
        rfl
      · cases h
      · cases h

/-- The answer to a continued text is shown as the tokens of both parts ask for. -/
theorem isInchMode_continuedText (h : calculate (continuedText front op back) = .answer r)
    (htokens : Token.ofText front = .ok tokens) (hne : tokens ≠ [])
    (hbehind : Token.ofText back = .ok behind) :
    r.isInchMode = isMeasurement (tokens ++ behind) := by
  obtain ⟨position, moved, hwhole, hmoved⟩ :=
    Token.exists_ofText_append_operator htokens hne hbehind op
  rw [isInchMode_of_answer h hwhole, Token.isMeasurement_append_operator hmoved]

namespace Quantity

theorem isZero_iff_totalInches {total : List Char} (htotal : q.totalInches = .ok total) :
    q.isZero = true ↔ total = ['0'] := by
  have hcanonical := isCanonicalText_of_totalInches htotal
  rw [isZero_iff_toRat]
  constructor
  · intro hzero
    rw [hzero] at hcanonical
    exact hcanonical.eq Decimal.IsCanonicalText.zero
  · rintro rfl
    obtain ⟨d, hparse, hvalue⟩ := hcanonical.exists_parse?
    obtain ⟨d', hparse', hvalue'⟩ := Decimal.IsCanonicalText.zero.exists_parse?
    cases hparse.symm.trans hparse'
    exact hvalue.symm.trans hvalue'

/-- Feet and inches end with an inch mark, which plain numbers do not have. -/
theorem feetInches_eq_totalInches_iff {feet total : List Char} (hfeet : q.feetInches = .ok feet)
    (htotal : q.totalInches = .ok total) : feet = total ↔ total = ['0'] := by
  rw [← isZero_iff_totalInches htotal]
  constructor
  · rintro rfl
    by_contra hzero
    obtain ⟨n, hn, hnumeral, -⟩ := exists_numeral_of_totalInches htotal
    have hmark : '"' ∈ feet := by
      rw [eq_of_feetInches hfeet, if_neg hzero]
      exact List.mem_append_right _ List.mem_cons_self
    rw [hnumeral, ← Token.filter_written ((Token.isWritten_text hn).signed q.negative)] at hmark
    exact of_decide_eq_true (List.mem_filter.mp hmark).2 rfl
  · intro hzero
    rw [feetInches, if_pos hzero, Except.ok.injEq] at hfeet
    rw [← hfeet, (isZero_iff_totalInches htotal).mp hzero]

/-- **Two displays of a quantity.** They have the same number of inches, and the same text exactly
if they are of one kind or show a zero. -/
theorem display_agree_iff {measurement measurement' : Bool} {shown shown' : Display}
    (h : q.display measurement = .ok shown) (h' : q.display measurement' = .ok shown') :
    shown.totalInches = shown'.totalInches ∧ shown.decimal = shown'.decimal ∧
      (shown.feetInches = shown'.feetInches ↔
        measurement = measurement' ∨ shown'.totalInches = "0") := by
  obtain ⟨total, feet, decimal, htotal, hfeet, hdecimal, rfl⟩ := display_eq_ok_iff.mp h
  obtain ⟨total', feet', decimal', htotal', hfeet', hdecimal', rfl⟩ := display_eq_ok_iff.mp h'
  cases htotal.symm.trans htotal'
  cases hdecimal.symm.trans hdecimal'
  refine ⟨rfl, rfl, ?_⟩
  have hzero : String.ofList total = "0" ↔ total = ['0'] := String.ofList_inj
  rw [hzero, String.ofList_inj]
  cases measurement <;> cases measurement'
  · cases hfeet.symm.trans hfeet'
    exact iff_of_true rfl (Or.inl rfl)
  · rw [if_neg Bool.false_ne_true, Except.ok.injEq] at hfeet
    subst hfeet
    rw [eq_comm, feetInches_eq_totalInches_iff hfeet' htotal, or_iff_right Bool.false_ne_true]
  · rw [if_neg Bool.false_ne_true, Except.ok.injEq] at hfeet'
    subst hfeet'
    rw [feetInches_eq_totalInches_iff hfeet htotal, or_iff_right Bool.false_ne_true.symm]
  · cases hfeet.symm.trans hfeet'
    exact iff_of_true rfl (Or.inl rfl)

end Quantity

namespace Keypad

/-! ## The tokens of a displayed text -/

/-- A text in feet and inches has no percent signs and points, and feet or fractions as it shows
them. -/
theorem exists_tokens_bareFeetInches
    (hshort : (digitsOfNat (q.whole / 12)).length ≤ Token.maxLiteralDigits) :
    ∃ tokens : List Token,
      Token.ofText (String.ofList (Decimal.signed q.negative q.bareFeetInches)) = .ok tokens ∧
      Token.IsPlain tokens ∧
      (Token.HasMeasure tokens ↔
        '\'' ∈ Decimal.signed q.negative q.bareFeetInches ∨
          '/' ∈ Decimal.signed q.negative q.bareFeetInches) := by
  obtain ⟨tokens, htokens, ⟨operand, hwrites, -⟩, hplain⟩ :=
    Quantity.exists_ofText_bareFeetInches hshort
  have hinches : '"' ∉ Decimal.signed q.negative q.bareFeetInches := by
    rw [← q.filter_bareFeetInches]
    exact fun hmark => of_decide_eq_true (List.mem_filter.mp hmark).2 rfl
  refine ⟨tokens, htokens, hplain, ?_⟩
  rw [Token.hasMeasure_iff hwrites.isOperator_eq_false, Token.hasFeet_iff htokens,
    Token.hasInches_iff htokens, Token.hasRatio_iff htokens, String.toList_ofList,
    q.plainMarks_bareFeetInches, or_iff_right hinches]

/-- The text that an answer is continued with has no percent signs.  It has feet or fractions if it
shows them in feet and inches, and points if it shows them in a plain number. -/
theorem exists_tokens_continuation
    (hdisplay : q.display r.isInchMode = .ok ⟨r.feetInches, r.totalInches, r.decimal⟩)
    (hshort : HasShortNumbers Token.maxLiteralDigits r.feetInches.toList) :
    ∃ tokens, Token.ofText (Session.continuation r) = .ok tokens ∧
      (Token.HasMeasure tokens ↔
        r.isInchMode = true ∧ ('\'' ∈ r.feetInches.toList ∨ '/' ∈ r.feetInches.toList)) ∧
      (Token.IsPlain tokens ↔ r.isInchMode = true ∨ '.' ∉ r.feetInches.toList) := by
  obtain ⟨total, feet, decimal, htotal, hfeet, -, hshown⟩ := Quantity.display_eq_ok_iff.mp hdisplay
  obtain ⟨hrfeet, -, -⟩ := Quantity.Display.mk.inj hshown
  rw [hrfeet, String.toList_ofList] at hshort
  rw [Session.continuation, hrfeet, String.toList_ofList]
  cases hmode : r.isInchMode with
  | true =>
    rw [hmode, if_pos rfl] at hfeet
    rw [Quantity.hasShortNumbers_feetInches hfeet, Quantity.hasShortNumbers_bareFeetInches]
      at hshort
    have hfilter := Quantity.filter_feetInches hfeet
    obtain ⟨tokens, htokens, hplain, hmeasure⟩ := exists_tokens_bareFeetInches hshort
    have hmem : ∀ c, c ≠ '"' → (c ∈ Decimal.signed q.negative q.bareFeetInches ↔ c ∈ feet) := by
      intro c hc
      rw [← hfilter, List.mem_filter, and_iff_left (decide_eq_true hc)]
    refine ⟨tokens, ?_, ?_, iff_of_true hplain (Or.inl rfl)⟩
    · rw [if_pos rfl, Session.withoutInchMarks, String.toList_ofList, hfilter]
      exact htokens
    · rw [hmeasure, hmem _ (by decide), hmem _ (by decide), and_iff_right rfl]
  | false =>
    rw [hmode, if_neg Bool.false_ne_true, Except.ok.injEq] at hfeet
    subst hfeet
    obtain ⟨n, hn, rfl, -⟩ := Quantity.exists_numeral_of_totalInches htotal
    rw [Quantity.hasShortNumbers_signed, Token.Numeral.hasShortNumbers_text hn] at hshort
    have hpoint : '.' ∈ Decimal.signed q.negative n.text ↔ '.' ∈ n.text := by
      cases q.negative with
      | false => rfl
      | true => exact List.mem_cons.trans (or_iff_right (by decide))
    have hpercent : (Token.number (n.literal hn) q.negative 0).isPercent = false := rfl
    refine ⟨_, Token.ofText_numeral hn hshort, ?_, ?_⟩
    · refine iff_of_false ?_ (fun h => Bool.false_ne_true h.1)
      rintro ⟨token, hmem, hmeasure⟩
      rw [List.mem_singleton.mp hmem] at hmeasure
      cases hmeasure
    · rw [Token.IsPlain, List.forall_mem_singleton, and_iff_right hpercent, Token.isPointed,
        Literal.isInteger, Bool.not_not, ← Bool.not_eq_true, List.contains_iff_mem, hpoint,
        or_iff_right Bool.false_ne_true, Token.Numeral.literal, String.toList_ofList]

/-- A session that goes on to an answer does so from short numbers. -/
theorem Shows.hasShortNumbers {s : Session} (h : Shows s r q)
    (hnext : (s.goOn op k).1 = .answer next) :
    HasShortNumbers Token.maxLiteralDigits r.feetInches.toList := by
  obtain ⟨again, htext, hreads, hnumbers⟩ := exists_readsAs_continuation h.display
  by_contra hlong
  obtain ⟨fault, hfault⟩ := hreads.of_long (mt hnumbers.mp hlong)
  rw [h.goOn_eq, htext] at hnext
  have hlonger : Token.ofText (continuedText (String.ofList again) op k) = .error fault := by
    have happend := Token.ofText_append_of_error hfault (String.ofList [op.symbol] ++ " " ++ k)
    rw [continuedText]
    simpa only [String.append_assoc] using happend
  cases (calculate_of_error hlonger).symm.trans hnext

/-! ## Keeping the kind of display -/

/-- The displayed text of an answer stands for the tokens of its expression, before those of an
operand, in how the next answer is shown.  Marks and fractions in the operand decide by themselves.
In feet and inches, a percent sign or a point in the operand makes the next answer a plain number
unless a mark or a fraction is left, so the text has to show feet or a fraction exactly if the
expression has a mark or a fraction.  A plain number has to show a point, unless the operand has a
point or a percent sign. -/
def KeepsMode (r : Result) (before behind : List Token) : Prop :=
  Token.HasMeasure behind ∨
    if r.isInchMode then
      Token.IsPlain behind ∨
        (Token.HasMeasure before ↔ '\'' ∈ r.feetInches.toList ∨ '/' ∈ r.feetInches.toList)
    else ¬Token.IsPlain behind ∨ '.' ∈ r.feetInches.toList

theorem keepsMode_iff {before shown behind : List Token}
    (hmode : r.isInchMode = isMeasurement before)
    (hmeasure : Token.HasMeasure shown ↔
      r.isInchMode = true ∧ ('\'' ∈ r.feetInches.toList ∨ '/' ∈ r.feetInches.toList))
    (hplain : Token.IsPlain shown ↔ r.isInchMode = true ∨ '.' ∉ r.feetInches.toList) :
    KeepsMode r before behind ↔
      isMeasurement (shown ++ behind) = isMeasurement (before ++ behind) := by
  rw [KeepsMode, Bool.eq_iff_iff (a := isMeasurement _), Token.isMeasurement_append_iff,
    Token.isMeasurement_append_iff]
  by_cases hmark : Token.HasMeasure behind
  · exact iff_of_true (Or.inl hmark) (iff_of_true (Or.inr (Or.inl hmark)) (Or.inr (Or.inl hmark)))
  cases hinch : r.isInchMode with
  | true =>
    have hbefore : Token.HasMeasure before ∨ Token.IsPlain before :=
      Token.isMeasurement_iff.mp (hmode.symm.trans hinch)
    have hshown : Token.IsPlain shown := hplain.mpr (Or.inl hinch)
    have hshows := hmeasure.trans (and_iff_right hinch)
    rw [if_pos rfl, ← hshows]
    by_cases hwhole : Token.IsPlain behind
    · exact iff_of_true (Or.inr (Or.inl hwhole)) (iff_of_true (Or.inr (Or.inr ⟨hshown, hwhole⟩))
        (hbefore.imp_right fun h => Or.inr ⟨h, hwhole⟩))
    · -- only a mark or a fraction before the operand gives feet and inches
      simp only [hmark, hwhole, and_false, or_false, false_or]
      exact ⟨Iff.symm, Iff.symm⟩
  | false =>
    obtain ⟨hnoMark, hnotPlain⟩ : ¬Token.HasMeasure before ∧ ¬Token.IsPlain before := by
      rw [← not_or, ← Token.isMeasurement_iff, ← hmode, hinch]
      exact Bool.false_ne_true
    have hshown : ¬Token.HasMeasure shown := by
      rw [hmeasure, hinch]
      exact fun h => Bool.false_ne_true h.1
    rw [hinch, or_iff_right Bool.false_ne_true] at hplain
    -- only whole numbers on both sides of the operator give feet and inches
    simp only [hmark, hnoMark, hnotPlain, hshown, hplain, false_and, false_or, iff_false,
      not_and_or, not_not, if_neg Bool.false_ne_true]
    exact or_comm

/-- **How a continued answer is shown.** After any keys, an answer that was just produced is
continued to the number of inches of the whole expression.  The continued answer is shown in feet
and inches when the answer to the whole expression is, and as a plain number when that is, exactly
if the displayed text stands for the tokens of the expression; and the two displayed texts are the
same exactly in this case and for zero. -/
theorem goOn_isInchMode_iff {s : Session} {keys : List Key}
    (hkeys : Session.empty.pressAll keys = s) (hjust : s.justCalculated = true)
    (hlast : s.lastResult = some r) (hk : IsOperandText k operand)
    (hnext : (s.goOn op k).1 = .answer next)
    (hwhole : calculate (continuedText r.expression op k) = .answer whole) :
    next.totalInches = whole.totalInches ∧ next.decimal = whole.decimal ∧
      (next.feetInches = whole.feetInches ↔
        next.isInchMode = whole.isInchMode ∨ whole.totalInches = "0") ∧
      ∃ before behind, Token.ofText r.expression = .ok before ∧ Token.ofText k = .ok behind ∧
        (next.isInchMode = whole.isInchMode ↔ KeepsMode r before behind) := by
  have hcalculate : calculate r.expression = .answer r := by
    have hremembers := remembers_pressAll keys
    rw [hkeys] at hremembers
    exact hremembers r hlast
  obtain ⟨-, q, hfolds, hdisplay⟩ := exists_folds_of_answer hcalculate
  have hshows : Shows s r q := ⟨hjust, hlast, hdisplay⟩
  have hshort := hshows.hasShortNumbers hnext
  -- both answers show the same quantity
  obtain ⟨total, hnextShows, htotal⟩ := hshows.exists_next hshort hfolds hk hnext
  obtain ⟨measurement, hanswer⟩ := exists_answerOf htotal
  obtain ⟨hinches, hdecimal, hfeet⟩ := Quantity.display_agree_iff hnextShows.display
    (display_of_answerOf (hanswer.symm.trans hwhole)).2
  refine ⟨hinches, hdecimal, hfeet, ?_⟩
  -- they are shown by the tokens before the operator, and those of the operand
  obtain ⟨before, e, hbefore, he, -⟩ := hfolds
  obtain ⟨shown, e', hshown, he', -⟩ := folds_continuation hdisplay hshort
  obtain ⟨behind, hbehind, -⟩ := hk
  obtain ⟨shown', hshown', hmeasure, hplain⟩ := exists_tokens_continuation hdisplay hshort
  cases hshown.symm.trans hshown'
  have hbeforeNe : before ≠ [] := by
    rintro rfl
    cases he
  have hshownNe : shown ≠ [] := by
    rintro rfl
    cases he'
  have hcontinued : calculate (continuedText (Session.continuation r) op k) = .answer next := by
    rw [hshows.goOn_eq] at hnext
    exact hnext
  refine ⟨before, behind, hbefore, hbehind, ?_⟩
  rw [isInchMode_continuedText hcontinued hshown hshownNe hbehind,
    isInchMode_continuedText hwhole hbefore hbeforeNe hbehind]
  exact (keepsMode_iff (isInchMode_of_answer hcalculate hbefore) hmeasure hplain).symm

/-- The answer to three quarters of an inch as a sum. -/
def threeQuartersResult : Result :=
  ⟨"1/2 + 1/4", .finite false (3 * Nat.pow 2 1072), "3/4\"", "0.75", true⟩

/-- Three quarters are displayed as a fraction, so the mode is kept in front of a point. -/
theorem goOn_isInchMode_iff_threeQuarters :
    let s := Session.empty.pressAll [.enterAndCompute "1/2 + 1/4"]
    ∃ next whole, (s.goOn .multiply "1.5").1 = .answer next ∧
      calculate "1/2 + 1/4 * 1.5" = .answer whole ∧ next.isInchMode = whole.isInchMode ∧
        next.feetInches = whole.feetInches := by
  intro s
  have hlast : s.lastResult = some threeQuartersResult := by decide +kernel
  have hk : IsOperandText "1.5" ⟨false, none, some (3 / 2), none, false⟩ := by decide +kernel
  have hnext : (s.goOn .multiply "1.5").1 = .answer
      ⟨"3/4 * 1.5", .finite false (9 * Nat.pow 2 1071), "1 1/8\"", "1.125", true⟩ := by
    decide +kernel
  have hwhole : calculate (continuedText threeQuartersResult.expression .multiply "1.5") = .answer
      ⟨"1/2 + 1/4 * 1.5", .finite false (9 * Nat.pow 2 1071), "1 1/8\"", "1.125", true⟩ := by
    decide +kernel
  obtain ⟨-, -, hfeet, before, behind, hbefore, hbehind, hmode⟩ :=
    goOn_isInchMode_iff rfl (by decide +kernel) hlast hk hnext hwhole
  have hslash : '/' ∈ threeQuartersResult.feetInches.toList := by decide +kernel
  have hfractions : (Token.ofText threeQuartersResult.expression).map (List.any · Token.isMeasure) =
      .ok true := by
    decide +kernel
  rw [hbefore] at hfractions
  have hkeeps : KeepsMode threeQuartersResult before behind :=
    Or.inr (Or.inr (iff_of_true (List.any_eq_true.mp (Except.ok.inj hfractions)) (Or.inr hslash)))
  exact ⟨_, _, hnext, hwhole, hmode.mpr hkeeps, hfeet.mpr (Or.inl (hmode.mpr hkeeps))⟩

/-- A sum of two fractions is displayed as a whole inch, which in front of a point becomes a plain
number. -/
theorem goOn_isInchMode_wholeInch :
    let s := Session.empty.pressAll [.enterAndCompute "1/2 + 1/2"]
    s.justCalculated = true ∧
      s.lastResult = some ⟨"1/2 + 1/2", .finite false (Nat.pow 2 1074), "1\"", "1", true⟩ ∧
      IsOperandText "1.5" ⟨false, none, some (3 / 2), none, false⟩ ∧
      (s.goOn .multiply "1.5").1 =
        .answer ⟨"1 * 1.5", .finite false (3 * Nat.pow 2 1073), "1.5", "1.5", false⟩ ∧
      calculate (continuedText "1/2 + 1/2" .multiply "1.5") = .answer
        ⟨"1/2 + 1/2 * 1.5", .finite false (3 * Nat.pow 2 1073), "1 1/2\"", "1.5", true⟩ := by
  decide +kernel

end Keypad

end TapeMeasure
