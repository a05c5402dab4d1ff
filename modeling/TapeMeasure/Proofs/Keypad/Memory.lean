import TapeMeasure.Proofs.Keypad.Consistency

/-!
# The memory of the keypad

An operator pressed right after an answer continues from the displayed text of the answer.  That
text has the final quantity of the expression behind the answer, so the keypad calculates what the
whole expression, typed at once, would give, however often it continues.

* `remembers_pressAll`: the last answer of a session is the answer to its own expression.
* `folds_continuation`: the text that an answer is continued with has the quantity of the answer.
* `Session.goOn`: an operator, an operand and a calculation.
* `Chain`: several of them, each of which gives an answer; `Chain.exists_folds` follows the final
  quantity along.
* `goOn_agrees`: the keypad and the whole expression have the same value.
-/

namespace TapeMeasure

namespace Keypad

open Text

variable {s : Session}

/-! ## The last answer -/

/-- After any keys, the last answer is the answer to its expression. -/
theorem remembers_pressAll (keys : List Key) : Remembers (Session.empty.pressAll keys) :=
  (consistent_empty.pressAll keys).remembers

/-! ## The text of the last answer -/

theorem folds_of_writesAmount {text : String} {tokens : List Token} {q : Quantity}
    (htokens : Token.ofText text = .ok tokens)
    (hwrites : Operand.WritesAmount tokens q.negative |q.toRat|) : Folds text q := by
  obtain ⟨e, he, hevaluate⟩ := Expression.evaluate_of_writesAmount hwrites
  refine ⟨tokens, e, htokens, he, ?_⟩
  rw [Expression.evaluate] at hevaluate
  cases hfold : e.fold with
  | error fault =>
    rw [hfold] at hevaluate
    cases hevaluate
  | ok total =>
    rw [hfold] at hevaluate
    exact congrArg Except.ok (Except.ok.inj hevaluate)

/-- The text that an answer is continued with has the numbers of the displayed one. -/
theorem exists_readsAs_continuation {r : Result} {q : Quantity}
    (hdisplay : q.display r.isInchMode = .ok ⟨r.feetInches, r.totalInches, r.decimal⟩) :
    ∃ again, Session.continuation r = String.ofList again ∧ ReadsAs again q r.isInchMode ∧
      (HasShortNumbers Token.maxLiteralDigits again ↔
        HasShortNumbers Token.maxLiteralDigits r.feetInches.toList) := by
  obtain ⟨total, feet, decimal, htotal, hfeet, -, hshown⟩ := Quantity.display_eq_ok_iff.mp hdisplay
  obtain ⟨hrfeet, -, -⟩ := Quantity.Display.mk.inj hshown
  rw [Session.continuation, hrfeet]
  cases hmode : r.isInchMode with
  | true =>
    -- the inch mark is taken out of feet and inches, and has no part in their numbers
    rw [hmode, if_pos rfl] at hfeet
    refine ⟨feet.filter (· ≠ '"'), ?_, readsAs_feetInches hfeet, ?_⟩
    · rw [if_pos rfl, Session.withoutInchMarks, String.toList_ofList]
    · rw [String.toList_ofList, Quantity.hasShortNumbers_feetInches hfeet,
        Quantity.filter_feetInches hfeet]
  | false =>
    -- a plain number has no inch mark to take out
    rw [hmode, if_neg Bool.false_ne_true, Except.ok.injEq] at hfeet
    subst hfeet
    obtain ⟨n, hn, rfl, -⟩ := Quantity.exists_numeral_of_totalInches htotal
    have hfilter := Token.filter_written ((Token.isWritten_text hn).signed q.negative)
    have hreads := readsAs_totalInches htotal
    rw [hfilter] at hreads
    exact ⟨_, if_neg Bool.false_ne_true, hreads, by rw [String.toList_ofList]⟩

/-- An answer with short numbers is continued with a text of the same quantity. -/
theorem folds_continuation {r : Result} {q : Quantity}
    (hdisplay : q.display r.isInchMode = .ok ⟨r.feetInches, r.totalInches, r.decimal⟩)
    (hshort : HasShortNumbers Token.maxLiteralDigits r.feetInches.toList) :
    Folds (Session.continuation r) q := by
  obtain ⟨again, htext, hreads, hnumbers⟩ := exists_readsAs_continuation hdisplay
  obtain ⟨tokens, htokens, hwrites, -⟩ := hreads.of_short (hnumbers.mpr hshort)
  rw [htext]
  exact folds_of_writesAmount htokens hwrites

/-! ## Continuing -/

/-- An operator, an operand, and a calculation. -/
def Session.goOn (op : Operator) (operand : String) (s : Session) : Outcome × Session :=
  ((s.appendOperator (String.ofList [op.symbol])).append operand).compute

/-- A session has just produced an answer, which shows a quantity. -/
structure Shows (s : Session) (r : Result) (q : Quantity) : Prop where
  justCalculated : s.justCalculated = true
  lastResult : s.lastResult = some r
  display : q.display r.isInchMode = .ok ⟨r.feetInches, r.totalInches, r.decimal⟩

variable {r next last : Result} {q : Quantity} {op : Operator} {k : String} {operand : Operand}
  {steps : List (Operator × String)}

/-- What is calculated is the text of the answer, continued. -/
theorem Shows.goOn_eq (h : Shows s r q) (op : Operator) (k : String) :
    s.goOn op k = Session.compute
      { s with
        expression := continuedText (Session.continuation r) op k
        justCalculated := false } := by
  rw [Session.goOn, Session.appendOperator, h.justCalculated, h.lastResult, Session.append,
    if_neg Bool.false_ne_true, continuedText]
  simp only [String.append_assoc]

/-- Continuing has the value of any text with the quantity of the answer, continued. -/
theorem Shows.value?_goOn (h : Shows s r q)
    (hshort : HasShortNumbers Token.maxLiteralDigits r.feetInches.toList) {text : String}
    (htext : Folds text q) (hk : IsOperandText k operand) (op : Operator) :
    (s.goOn op k).1.value? = (calculate (continuedText text op k)).value? := by
  rw [h.goOn_eq]
  exact value?_continuedText_eq (folds_continuation h.display hshort) htext hk op

/-- An answer that is continued to is what the session shows next, and any text with the quantity
of the last answer, continued, has the quantity of the next one. -/
theorem Shows.exists_next (h : Shows s r q)
    (hshort : HasShortNumbers Token.maxLiteralDigits r.feetInches.toList) {text : String}
    (htext : Folds text q) (hk : IsOperandText k operand)
    (hnext : (s.goOn op k).1 = .answer next) :
    ∃ total, Shows (s.goOn op k).2 next total ∧ Folds (continuedText text op k) total := by
  have hfolds := folds_continuation h.display hshort
  rw [h.goOn_eq] at hnext ⊢
  have hcalculate : calculate (continuedText (Session.continuation r) op k) = .answer next := hnext
  cases htotal : op.apply q operand.quantity with
  | error fault =>
    rw [calculate_continuedText_of_error hfolds hk htotal] at hcalculate
    cases hcalculate
  | ok total =>
    obtain ⟨measurement, hanswer⟩ := exists_answerOf (folds_continuedText hfolds hk htotal)
    refine ⟨total, ⟨?_, ?_, ?_⟩, folds_continuedText htext hk htotal⟩
    · rw [Session.compute, hcalculate]
      rfl
    · rw [Session.compute, hcalculate]
      rfl
    · exact (display_of_answerOf (hanswer.symm.trans hcalculate)).2

/-! ## Continuing again and again -/

/-- From a session that shows an answer, every step of continuing gives an answer; the numbers of
the displays in between are short. -/
inductive Chain : Session → Result → List (Operator × String) → Result → Prop
  | nil (s : Session) (r : Result) : Chain s r [] r
  | cons {s : Session} {r next last : Result} {op : Operator} {k : String}
      {steps : List (Operator × String)} (short : HasShortNumbers 64 r.feetInches.toList)
      (operand : ∃ operand, IsOperandText k operand) (answer : (s.goOn op k).1 = .answer next)
      (rest : Chain (s.goOn op k).2 next steps last) : Chain s r ((op, k) :: steps) last

/-- A text that goes on with several operators and operands. -/
def continuedTexts (text : String) (steps : List (Operator × String)) : String :=
  steps.foldl (fun text step => continuedText text step.1 step.2) text

/-- The last answer of a chain shows the final quantity of the whole text. -/
theorem Chain.exists_folds (h : Chain s r steps last) (hshows : Shows s r q) {text : String}
    (htext : Folds text q) :
    ∃ total, Folds (continuedTexts text steps) total ∧
      total.display last.isInchMode = .ok ⟨last.feetInches, last.totalInches, last.decimal⟩ := by
  induction h generalizing q text with
  | nil s r => exact ⟨q, htext, hshows.display⟩
  | cons short operand answer rest ih =>
    obtain ⟨operand, hoperand⟩ := operand
    obtain ⟨total, hnext, htotal⟩ := hshows.exists_next short htext hoperand answer
    exact ih hnext htotal

/-- **The keypad agrees with typing the whole expression.** After any keys, an answer that was just
produced is continued to an answer exactly if its expression is, with the same value; and a chain
of such steps ends with the value of the one expression. -/
theorem goOn_agrees {keys : List Key} (hkeys : Session.empty.pressAll keys = s)
    (hjust : s.justCalculated = true) (hlast : s.lastResult = some r) :
    (HasShortNumbers 64 r.feetInches.toList → ∀ op k, (∃ operand, IsOperandText k operand) →
      ((∃ next, (s.goOn op k).1 = .answer next) ↔
        ∃ whole, calculate (continuedText r.expression op k) = .answer whole) ∧
      ∀ next whole, (s.goOn op k).1 = .answer next →
        calculate (continuedText r.expression op k) = .answer whole →
        next.totalInches = whole.totalInches ∧ next.decimal = whole.decimal) ∧
    ∀ steps last, Chain s r steps last →
      ∃ whole, calculate (continuedTexts r.expression steps) = .answer whole ∧
        whole.totalInches = last.totalInches ∧ whole.decimal = last.decimal := by
  have hcalculate : calculate r.expression = .answer r := by
    have hremembers := remembers_pressAll keys
    rw [hkeys] at hremembers
    exact hremembers r hlast
  obtain ⟨-, q, hfolds, hdisplay⟩ := exists_folds_of_answer hcalculate
  have hshows : Shows s r q := ⟨hjust, hlast, hdisplay⟩
  refine ⟨?_, ?_⟩
  · rintro hshort op k ⟨operand, hoperand⟩
    exact Outcome.agree_of_value?_eq (hshows.value?_goOn hshort hfolds hoperand op)
  · intro steps last hchain
    obtain ⟨total, htotal, hshown⟩ := hchain.exists_folds hshows hfolds
    exact exists_answer_of_display htotal hshown

/-- The answer to twice minus three feet, two and a half inches. -/
def doubledResult : Result :=
  ⟨"-3' 2 1/2 * 2", .finite true (77 * Nat.pow 2 1074), "-6' 5\"", "-77", true⟩

/-- The answer to a quarter of an inch more, which is continued from the display. -/
def quarterMoreResult : Result :=
  ⟨"-6' 5 + .25", .finite true (307 * Nat.pow 2 1072), "-6' 4 3/4\"", "-76.75", true⟩

theorem goOn_agrees_threeFeet :
    ∃ doubled whole, calculate "-3' 2 1/2 * 2" = .answer doubled ∧
      doubled.totalInches = "-77" ∧ calculate "-3' 2 1/2 * 2 + .25" = .answer whole ∧
        whole.totalInches = "-76.75" := by
  let keys : List Key := [.enterAndCompute "-3' 2 1/2"]
  let s : Session := Session.empty.pressAll keys
  have htwo : IsOperandText "2" ⟨false, none, some 2, none, false⟩ := by decide +kernel
  have hquarter : IsOperandText ".25" ⟨false, none, some (1 / 4), none, false⟩ := by decide +kernel
  have hdoubled : (s.goOn .multiply "2").1 = .answer doubledResult := by decide +kernel
  have hmore : ((s.goOn .multiply "2").2.goOn .add ".25").1 = .answer quarterMoreResult := by
    decide +kernel
  have hchain : Chain s threeFeetResult [(.multiply, "2"), (.add, ".25")] quarterMoreResult :=
    .cons (by decide +kernel) ⟨_, htwo⟩ hdoubled
      (.cons (by decide +kernel) ⟨_, hquarter⟩ hmore (.nil _ _))
  have hlast : s.lastResult = some threeFeetResult := by decide +kernel
  have hkeys : Session.empty.pressAll keys = s := rfl
  obtain ⟨hstep, hsteps⟩ := goOn_agrees hkeys (by decide +kernel) hlast
  obtain ⟨hanswer, hvalue⟩ := hstep (by decide +kernel) .multiply "2" ⟨_, htwo⟩
  obtain ⟨doubled, hcalculate⟩ := hanswer.mp ⟨_, hdoubled⟩
  obtain ⟨whole, hwhole, htotal, -⟩ := hsteps _ _ hchain
  exact ⟨doubled, whole, hcalculate, (hvalue _ _ hdoubled hcalculate).1.symm, hwhole, htotal⟩

end Keypad

end TapeMeasure
