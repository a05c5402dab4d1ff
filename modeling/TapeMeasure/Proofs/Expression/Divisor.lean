import TapeMeasure.Calculation
import TapeMeasure.Proofs.Quantity.Nearest

/-!
# When a fold fails

A fold fails exactly if a divisor is the zero quantity.  A divisor is rounded before it is tested,
and a percentage twice, so divisors that are not written as zero count as zero too
(`Operand.CountsAsZero`, `Operand.quantity_eq_zero_iff`).

Every quantity on the way is built from four computed numbers, which a quantity has to check.  The
checks are written out in `Expression.foldChecked`; they never fail, whatever the running total is.

* `Quantity.ofRat_eq_zero_iff`, `Quantity.percent_eq_zero_iff`: what is rounded to zero.
* `Expression.exists_apply_error_iff`, `Expression.exists_foldFrom_error_iff`: one step, and a run.
* `Quantity.construct_eq`, `Operator.apply_eq`, `Expression.foldChecked_eq`: no check fails.
* `Expression.fold_fails_iff`: all causes of a failure.
-/

namespace TapeMeasure

/-! ## What is rounded to zero -/

namespace Quantity

theorem isZero_iff_eq_zero {q : Quantity} : q.isZero = true ↔ q = zero := by
  have hzero : zero.toRat = 0 := isZero_iff_toRat.mp rfl
  rw [isZero_iff_toRat]
  constructor
  · intro h
    exact toRat_injective (h.trans hzero.symm)
  · rintro rfl
    exact hzero

/-- A value is rounded to zero exactly if it is nearer to zero than half a sixteenth. -/
theorem ofRat_eq_zero_iff {v : Rat} : ofRat v = zero ↔ |v| < 1 / 32 := by
  rw [← isZero_iff_eq_zero, isZero_iff, sixteenths_ofRat, roundHalfAway_eq_zero_iff, abs_mul,
    abs_of_pos (by norm_num : (0 : Rat) < 16)]
  constructor <;>
    · intro h
      linarith

theorem percent_eq_zero_iff {q : Quantity} : q.percent = zero ↔ |q.toRat| < 25 / 8 := by
  rw [percent, ofRat_eq_zero_iff, abs_div, abs_of_pos (by norm_num : (0 : Rat) < 100)]
  constructor <;>
    · intro h
      linarith

end Quantity

/-- An operand that is rounded to zero: it is nearer to zero than half a sixteenth, or it is a
percentage of what is rounded to less than three and an eighth inches. -/
def Operand.CountsAsZero (o : Operand) : Prop :=
  (o.percent = false ∧ |o.total| < 1 / 32) ∨
    (o.percent = true ∧ |(Quantity.ofRat o.total).toRat| < 25 / 8)

theorem Operand.quantity_eq_zero_iff {o : Operand} :
    o.quantity = Quantity.zero ↔ o.CountsAsZero := by
  rw [quantity, CountsAsZero]
  cases o.percent with
  | false =>
    rw [if_neg Bool.false_ne_true, Quantity.ofRat_eq_zero_iff]
    simp
  | true =>
    rw [if_pos rfl, Quantity.percent_eq_zero_iff]
    simp

/-! ## Divisors -/

namespace Expression

/-- An operator fails exactly if it divides by zero. -/
theorem exists_apply_error_iff {op : Operator} {a b : Quantity} :
    (∃ fault, op.apply a b = .error fault) ↔ op = .divide ∧ b = Quantity.zero := by
  cases op with
  | divide =>
    rw [← Quantity.isZero_iff_eq_zero]
    constructor
    · rintro ⟨fault, hfault⟩
      exact ⟨rfl, Quantity.divide_eq_error_iff.mp hfault⟩
    · rintro ⟨-, hzero⟩
      exact ⟨.divisionByZero, Quantity.divide_eq_error_iff.mpr hzero⟩
  | _ => exact iff_of_false (fun ⟨_, h⟩ => nomatch h) (fun ⟨h, _⟩ => nomatch h)

/-- A running total fails exactly if a divisor is zero, whatever the total is. -/
theorem exists_foldFrom_error_iff {total : Quantity} {rest : List (Operator × Operand)} :
    (∃ fault, foldFrom total rest = .error fault) ↔
      ∃ operand, (Operator.divide, operand) ∈ rest ∧ operand.quantity = Quantity.zero := by
  induction rest generalizing total with
  | nil => exact iff_of_false (by simp) (by simp)
  | cons pair rest ih =>
    obtain ⟨op, operand⟩ := pair
    have hstep : (∃ fault, op.apply total operand.quantity = .error fault) ↔
        op = .divide ∧ operand.quantity = Quantity.zero := exists_apply_error_iff
    rw [foldFrom]
    cases happly : op.apply total operand.quantity with
    | error fault =>
      obtain ⟨rfl, hzero⟩ := hstep.mp ⟨fault, happly⟩
      exact iff_of_true ⟨fault, rfl⟩ ⟨operand, List.mem_cons_self, hzero⟩
    | ok next =>
      have hnot : ¬(op = .divide ∧ operand.quantity = Quantity.zero) := by
        simp [← hstep, happly]
      rw [show (Except.ok next).bind (fun next => foldFrom next rest) = foldFrom next rest from rfl,
        ih]
      constructor
      · rintro ⟨divisor, hmem, hzero⟩
        exact ⟨divisor, List.mem_cons_of_mem _ hmem, hzero⟩
      · rintro ⟨divisor, hmem, hzero⟩
        rcases List.mem_cons.mp hmem with heq | hmem
        · cases heq
          exact absurd ⟨rfl, hzero⟩ hnot
        · exact ⟨divisor, hmem, hzero⟩

end Expression

/-! ## Checked quantities -/

/-- The computed parts pass the checks. -/
theorem Quantity.construct_eq (v : Rat) : construct v = .ok (ofRat v) :=
  ofParts_ofSixteenths _

theorem Operator.apply_eq (op : Operator) (a b : Quantity) :
    op.apply a b = (op.exact a b).map Quantity.ofRat := by
  cases op with
  | divide =>
    rw [apply, Quantity.divide, exact]
    split <;> rfl
  | _ => rfl

theorem Operand.quantityChecked_eq (o : Operand) : o.quantityChecked = .ok o.quantity := by
  rw [quantityChecked, quantity]
  simp only [Quantity.construct_eq]
  cases o.percent <;> rfl

theorem Operator.applyChecked_eq (op : Operator) (a b : Quantity) :
    op.applyChecked a b = (op.apply a b).mapError .arithmetic := by
  rw [applyChecked, apply_eq]
  cases op.exact a b with
  | error fault => rfl
  | ok v =>
    show (Quantity.construct v).mapError CheckedFault.construction = _
    rw [Quantity.construct_eq]
    rfl

namespace Expression

theorem foldFromChecked_eq (total : Quantity) (rest : List (Operator × Operand)) :
    foldFromChecked total rest = (foldFrom total rest).mapError .arithmetic := by
  induction rest generalizing total with
  | nil => rfl
  | cons pair rest ih =>
    obtain ⟨op, operand⟩ := pair
    rw [foldFromChecked, foldFrom, Operand.quantityChecked_eq]
    show (op.applyChecked total operand.quantity).bind _ = _
    rw [Operator.applyChecked_eq]
    cases op.apply total operand.quantity with
    | error fault => rfl
    | ok next => exact ih next

/-- No check of a quantity fails in a fold. -/
theorem foldChecked_eq (e : Expression) : e.foldChecked = e.fold.mapError .arithmetic := by
  rw [foldChecked, Operand.quantityChecked_eq]
  exact foldFromChecked_eq _ _

/-- **When a fold fails.** From any running total a fold divides by zero exactly if an operand
behind a division sign counts as zero.  Nothing else goes wrong, also if every quantity on the way
is checked, and the evaluation fails in these cases only. -/
theorem fold_fails_iff (e : Expression) :
    (∀ total, foldFrom total e.rest = .error .divisionByZero ↔
      ∃ o, (Operator.divide, o) ∈ e.rest ∧ o.CountsAsZero) ∧
    (e.fold = .error .divisionByZero ↔ ∃ o, (Operator.divide, o) ∈ e.rest ∧ o.CountsAsZero) ∧
    (e.fold = .error .divisionByZero ∨ ∃ q, e.fold = .ok q) ∧
    e.foldChecked = e.fold.mapError .arithmetic ∧
    ((∃ failure, e.evaluate = .error failure) ↔
      ∃ o, (Operator.divide, o) ∈ e.rest ∧ o.CountsAsZero) := by
  have hrun : ∀ total, foldFrom total e.rest = .error .divisionByZero ↔
      ∃ o, (Operator.divide, o) ∈ e.rest ∧ o.CountsAsZero := by
    intro total
    have hfault : (∃ fault, foldFrom total e.rest = .error fault) ↔
        ∃ o, (Operator.divide, o) ∈ e.rest ∧ o.quantity = Quantity.zero :=
      exists_foldFrom_error_iff
    simp only [← Operand.quantity_eq_zero_iff, ← hfault]
    constructor
    · intro h
      exact ⟨_, h⟩
    · rintro ⟨⟨⟩, h⟩
      exact h
  refine ⟨hrun, hrun _, ?_, foldChecked_eq e, ?_⟩
  · cases e.fold with
    | error fault =>
      cases fault
      exact Or.inl rfl
    | ok q => exact Or.inr ⟨q, rfl⟩
  · rw [← hrun e.first.quantity, ← fold, evaluate]
    cases e.fold with
    | error fault =>
      cases fault
      exact iff_of_true ⟨_, rfl⟩ rfl
    | ok q => exact iff_of_false (fun ⟨_, h⟩ => nomatch h) (fun h => nomatch h)

/-- One inch divided by three percent of an inch, which are rounded to zero. -/
def oneByThreePercent : Expression :=
  ⟨⟨false, none, some 1, none, false⟩, [(.divide, ⟨false, none, some 3, none, true⟩)]⟩

theorem fold_fails_iff_threePercent :
    (∃ o, (Operator.divide, o) ∈ oneByThreePercent.rest ∧ o.CountsAsZero) ∧
      oneByThreePercent.fold = .error .divisionByZero := by
  have hzero : ∃ o, (Operator.divide, o) ∈ oneByThreePercent.rest ∧ o.CountsAsZero := by
    refine ⟨_, List.mem_cons_self, Or.inr ⟨rfl, ?_⟩⟩
    decide +kernel
  exact ⟨hzero, (fold_fails_iff oneByThreePercent).2.1.mpr hzero⟩

end Expression

end TapeMeasure
