import TapeMeasure.Proofs.Calculation.Causes
import TapeMeasure.Proofs.Expression.Join
import TapeMeasure.Proofs.Token.Place

/-!
# Texts that go on

A text goes on with an operator and the text of an operand.  Its final quantity is that of the
shorter text, taken on by the operator, so texts with the same final quantity go on alike, whatever
they look like.

* `continuedText`, `IsOperandText`: how a text goes on.
* `folds_continuedText`, `calculate_continuedText_of_error`: the final quantity of the longer text,
  or that it has none.
* `Outcome.value?`: the value of an outcome, with `value?_calculate_eq`: the final quantity decides
  it.
* `value?_continuedText_eq`: texts with the same final quantity go on to the same value.
* `exists_folds_of_answer`, `exists_answer_of_display`: from an answer to its quantity and back.
-/

namespace TapeMeasure

open Text

/-- A text that goes on with an operator, between spaces, and another text. -/
def continuedText (front : String) (op : Operator) (back : String) : String :=
  front ++ " " ++ String.ofList [op.symbol] ++ " " ++ back

/-- A text that is read as a single operand. -/
def IsOperandText (text : String) (operand : Operand) : Prop :=
  ∃ tokens, Token.ofText text = .ok tokens ∧ Expression.ofTokens tokens = .ok ⟨operand, []⟩

instance (text : String) (operand : Operand) : Decidable (IsOperandText text operand) :=
  match htokens : Token.ofText text with
  | .error _ => isFalse fun ⟨_, h, _⟩ => nomatch htokens.symm.trans h
  | .ok tokens =>
    decidable_of_iff (Expression.ofTokens tokens = .ok ⟨operand, []⟩)
      ⟨fun h => ⟨tokens, htokens, h⟩,
        fun ⟨_, h, he⟩ => Except.ok.inj (htokens.symm.trans h) ▸ he⟩

variable {front back text text' : String} {operand : Operand} {q next : Quantity}

/-! ## The final quantity -/

/-- A text that goes on is read as an expression that goes on. -/
theorem exists_ofTokens_continuedText {tokens : List Token} {e : Expression}
    (htokens : Token.ofText front = .ok tokens) (he : Expression.ofTokens tokens = .ok e)
    (hback : IsOperandText back operand) (op : Operator) :
    ∃ longer, Token.ofText (continuedText front op back) = .ok longer ∧
      Expression.ofTokens longer = .ok (e.goOn op operand) := by
  obtain ⟨behind, hbehind, hoperand⟩ := hback
  have hne : tokens ≠ [] := by
    rintro rfl
    cases he
  obtain ⟨position, moved, hlonger, hmoved⟩ :=
    Token.exists_ofText_append_operator htokens hne hbehind op
  have hwrites := (Expression.writes_of_ofTokens hoperand).of_unplaced hmoved
  exact ⟨_, hlonger, Expression.ofTokens_append_operator he hwrites op position⟩

/-- The final quantity is taken on by the operator. -/
theorem folds_continuedText (h : Folds front q) (hback : IsOperandText back operand)
    {op : Operator} (hnext : op.apply q operand.quantity = .ok next) :
    Folds (continuedText front op back) next := by
  obtain ⟨tokens, e, htokens, he, hfold⟩ := h
  obtain ⟨longer, hlonger, hexpression⟩ := exists_ofTokens_continuedText htokens he hback op
  refine ⟨longer, e.goOn op operand, hlonger, hexpression, ?_⟩
  rw [Expression.fold_goOn, hfold]
  exact hnext

/-- Where the operator fails, so does the calculation. -/
theorem calculate_continuedText_of_error (h : Folds front q) (hback : IsOperandText back operand)
    {op : Operator} {fault : ArithmeticFault}
    (hfault : op.apply q operand.quantity = .error fault) :
    calculate (continuedText front op back) = .failure (.arithmetic fault) := by
  obtain ⟨tokens, e, htokens, he, hfold⟩ := h
  obtain ⟨longer, hlonger, hexpression⟩ := exists_ofTokens_continuedText htokens he hback op
  have hevaluate : (e.goOn op operand).evaluate = .error (.arithmetic fault) := by
    rw [Expression.evaluate, Expression.fold_goOn, hfold]
    show (op.apply q operand.quantity).mapError _ = _
    rw [hfault]
    rfl
  simp only [calculate, hlonger, hexpression, hevaluate]

/-! ## The value of an outcome -/

/-- The value of an answer: its number of inches, as a decimal and as a double. -/
def Outcome.value? (o : Outcome) : Option (String × Double) :=
  o.result?.map fun r => (r.totalInches, r.decimal)

namespace Outcome

variable {o o' : Outcome}

theorem value?_eq_some_iff {total : String} {decimal : Double} :
    o.value? = some (total, decimal) ↔
      ∃ r, o = .answer r ∧ r.totalInches = total ∧ r.decimal = decimal := by
  constructor
  · intro h
    cases o with
    | answer r =>
      obtain ⟨htotal, hdecimal⟩ := Prod.mk.inj (Option.some.inj h)
      exact ⟨r, rfl, htotal, hdecimal⟩
    | failure event => cases h
    | breakdown => cases h
  · rintro ⟨r, rfl, rfl, rfl⟩
    rfl

/-- Outcomes with the same value are answers together, with the same numbers of inches. -/
theorem agree_of_value?_eq (h : o.value? = o'.value?) :
    ((∃ r, o = .answer r) ↔ ∃ r, o' = .answer r) ∧
      ∀ r r', o = .answer r → o' = .answer r' →
        r.totalInches = r'.totalInches ∧ r.decimal = r'.decimal := by
  refine ⟨⟨?_, ?_⟩, ?_⟩
  · rintro ⟨r, rfl⟩
    obtain ⟨r', hr', -⟩ := value?_eq_some_iff.mp h.symm
    exact ⟨r', hr'⟩
  · rintro ⟨r, rfl⟩
    obtain ⟨r', hr', -⟩ := value?_eq_some_iff.mp h
    exact ⟨r', hr'⟩
  · rintro r r' rfl rfl
    exact Prod.mk.inj (Option.some.inj h)

end Outcome

theorem value?_answerOf_of_ok {total : List Char} {decimal : Double}
    (htotal : q.totalInches = .ok total) (hdecimal : q.toDouble = .ok decimal)
    (text : String) (measurement : Bool) :
    (answerOf text measurement q).value? = some (String.ofList total, decimal) := by
  obtain ⟨feet, hfeet⟩ :=
    Quantity.exists_feetInches_of_lt (Quantity.exists_toDouble_iff.mp ⟨decimal, hdecimal⟩)
  rw [answerOf_of_display (exists_display htotal hfeet hdecimal measurement)]
  rfl

theorem value?_answerOf_of_not
    (h : ¬∃ total decimal, q.totalInches = .ok total ∧ q.toDouble = .ok decimal)
    (text : String) (measurement : Bool) : (answerOf text measurement q).value? = none := by
  cases hdisplay : q.display measurement with
  | ok shown =>
    obtain ⟨total, feet, decimal, htotal, -, hdecimal, -⟩ := Quantity.display_eq_ok_iff.mp hdisplay
    exact absurd ⟨total, decimal, htotal, hdecimal⟩ h
  | error fault =>
    unfold answerOf
    rw [hdisplay]
    cases fault <;> rfl

/-- The value of a quantity does not depend on how it is displayed. -/
theorem value?_answerOf_eq (text text' : String) (measurement measurement' : Bool)
    (q : Quantity) :
    (answerOf text measurement q).value? = (answerOf text' measurement' q).value? := by
  by_cases h : ∃ total decimal, q.totalInches = .ok total ∧ q.toDouble = .ok decimal
  · obtain ⟨total, decimal, htotal, hdecimal⟩ := h
    rw [value?_answerOf_of_ok htotal hdecimal, value?_answerOf_of_ok htotal hdecimal]
  · rw [value?_answerOf_of_not h, value?_answerOf_of_not h]

/-- The final quantity decides the value. -/
theorem value?_calculate_eq (h : Folds text q) (h' : Folds text' q) :
    (calculate text).value? = (calculate text').value? := by
  obtain ⟨measurement, hcalculate⟩ := exists_answerOf h
  obtain ⟨measurement', hcalculate'⟩ := exists_answerOf h'
  rw [hcalculate, hcalculate']
  exact value?_answerOf_eq text text' measurement measurement' q

/-- Texts with the same final quantity go on alike. -/
theorem value?_continuedText_eq (h : Folds text q) (h' : Folds text' q)
    (hback : IsOperandText back operand) (op : Operator) :
    (calculate (continuedText text op back)).value? =
      (calculate (continuedText text' op back)).value? := by
  cases hnext : op.apply q operand.quantity with
  | error fault =>
    rw [calculate_continuedText_of_error h hback hnext,
      calculate_continuedText_of_error h' hback hnext]
  | ok next =>
    exact value?_calculate_eq (folds_continuedText h hback hnext)
      (folds_continuedText h' hback hnext)

/-! ## Answers -/

/-- An answer shows the final quantity of its expression. -/
theorem exists_folds_of_answer {r : Result} (h : calculate text = .answer r) :
    r.expression = text ∧ ∃ q, Folds text q ∧
      q.display r.isInchMode = .ok ⟨r.feetInches, r.totalInches, r.decimal⟩ := by
  rcases exists_fault_or_folds text with ⟨fault, hfault⟩ | ⟨tokens, fault, htokens, hfault⟩ |
    ⟨tokens, e, operand, htokens, he, hmem, hzero⟩ | ⟨q, hq⟩
  · rw [calculate_of_error hfault] at h
    cases h
  · rw [calculate_of_notExpression htokens hfault] at h
    cases h
  · rw [calculate_of_divisor htokens he hmem hzero] at h
    cases h
  · obtain ⟨measurement, hcalculate⟩ := exists_answerOf hq
    obtain ⟨hexpression, hdisplay⟩ := display_of_answerOf (hcalculate.symm.trans h)
    exact ⟨hexpression, q, hq, hdisplay⟩

/-- A text whose final quantity an answer shows has the value of the answer. -/
theorem exists_answer_of_display {r : Result} (h : Folds text q)
    (hdisplay : q.display r.isInchMode = .ok ⟨r.feetInches, r.totalInches, r.decimal⟩) :
    ∃ r', calculate text = .answer r' ∧ r'.totalInches = r.totalInches ∧
      r'.decimal = r.decimal := by
  obtain ⟨measurement, hcalculate⟩ := exists_answerOf h
  obtain ⟨total, feet, decimal, htotal, -, hdecimal, hshown⟩ :=
    Quantity.display_eq_ok_iff.mp hdisplay
  obtain ⟨-, hrtotal, hrdecimal⟩ := Quantity.Display.mk.inj hshown
  rw [hrtotal, hrdecimal, ← Outcome.value?_eq_some_iff, hcalculate]
  exact value?_answerOf_of_ok htotal hdecimal text measurement

end TapeMeasure
