import Mathlib.Algebra.BigOperators.Group.List.Basic
import TapeMeasure.Expression
import TapeMeasure.Proofs.Except
import TapeMeasure.Proofs.Quantity.Nearest

/-!
# Sums and differences

Addition and subtraction are exact on quantities, so a fold of nothing else is the signed sum of the
rounded operands.  Only the operands are rounded, each once unless it is a percentage, and the steps
are not.

* `Operator.signed`, `Expression.signedSum`: operands with the signs of their operators.
* `Operator.exists_apply_of_isAdditive`, `Expression.exists_foldFrom_of_isAdditive`: one step, and a
  run.
* `Expression.signedSum_perm`: the order does not matter.
* `Expression.abs_signedSum_sub_le`: the errors of the operands add up.
* `Expression.fold_sum`.
-/

namespace TapeMeasure

/-! ## Signed sums -/

/-- Addition and subtraction. -/
def Operator.IsAdditive (op : Operator) : Prop :=
  op = .add ∨ op = .subtract

/-- A value with the sign that an additive operator gives it. -/
def Operator.signed : Operator → Rat → Rat
  | subtract, v => -v
  | _, v => v

theorem Operator.abs_signed_sub (op : Operator) (v w : Rat) :
    |op.signed v - op.signed w| = |v - w| := by
  cases op with
  | subtract =>
    show |-v - -w| = |v - w|
    rw [← neg_sub', abs_neg]
  | _ => rfl

namespace Expression

variable {rest rest' : List (Operator × Operand)}

/-- The sum of what the operands are worth, with the signs of their operators. -/
def signedSum (value : Operand → Rat) (rest : List (Operator × Operand)) : Rat :=
  (rest.map fun pair => pair.1.signed (value pair.2)).sum

@[simp] theorem signedSum_nil (value : Operand → Rat) : signedSum value [] = 0 := rfl

@[simp] theorem signedSum_cons (value : Operand → Rat) (pair : Operator × Operand)
    (rest : List (Operator × Operand)) :
    signedSum value (pair :: rest) = pair.1.signed (value pair.2) + signedSum value rest :=
  List.sum_cons

/-- The order of the operands does not matter. -/
theorem signedSum_perm (value : Operand → Rat) (h : rest.Perm rest') :
    signedSum value rest = signedSum value rest' :=
  (h.map _).sum_eq

/-- The errors of the operands add up. -/
theorem abs_signedSum_sub_le {value value' : Operand → Rat} {error : Rat}
    (h : ∀ pair ∈ rest, |value pair.2 - value' pair.2| ≤ error) :
    |signedSum value rest - signedSum value' rest| ≤ rest.length * error := by
  induction rest with
  | nil => simp
  | cons pair rest ih =>
    obtain ⟨hfirst, hrest⟩ := List.forall_mem_cons.mp h
    have hsplit : signedSum value (pair :: rest) - signedSum value' (pair :: rest) =
        (pair.1.signed (value pair.2) - pair.1.signed (value' pair.2)) +
          (signedSum value rest - signedSum value' rest) := by
      rw [signedSum_cons, signedSum_cons, add_sub_add_comm]
    have hlength : ((pair :: rest).length : Rat) * error = error + rest.length * error := by
      rw [List.length_cons]
      push_cast
      ring
    rw [hsplit, hlength]
    refine (abs_add_le _ _).trans (add_le_add ?_ (ih hrest))
    rw [Operator.abs_signed_sub]
    exact hfirst

end Expression

/-! ## Folds -/

/-- An additive operator adds the signed value, and nothing is rounded. -/
theorem Operator.exists_apply_of_isAdditive {op : Operator} (h : op.IsAdditive) (a b : Quantity) :
    ∃ next, op.apply a b = .ok next ∧ next.toRat = a.toRat + op.signed b.toRat := by
  rcases h with rfl | rfl
  · exact ⟨a.add b, rfl, Quantity.toRat_add a b⟩
  · exact ⟨a.subtract b, rfl, (Quantity.toRat_subtract a b).trans (sub_eq_add_neg _ _)⟩

/-- An operand that is no percentage is rounded once. -/
theorem Operand.abs_quantity_sub_total_le {o : Operand} (h : o.percent = false) :
    |o.quantity.toRat - o.total| ≤ 1 / 32 := by
  rw [quantity, h, if_neg Bool.false_ne_true]
  exact Quantity.abs_toRat_ofRat_sub_le _

namespace Expression

/-- A running total grows by the signed sum of the rounded operands. -/
theorem exists_foldFrom_of_isAdditive {rest : List (Operator × Operand)}
    (h : ∀ pair ∈ rest, pair.1.IsAdditive) (total : Quantity) :
    ∃ q, foldFrom total rest = .ok q ∧
      q.toRat = total.toRat + signedSum (fun o => o.quantity.toRat) rest := by
  induction rest generalizing total with
  | nil => exact ⟨total, rfl, (add_zero _).symm⟩
  | cons pair rest ih =>
    obtain ⟨hfirst, hrest⟩ := List.forall_mem_cons.mp h
    obtain ⟨next, hnext, hstep⟩ :=
      Operator.exists_apply_of_isAdditive hfirst total pair.2.quantity
    obtain ⟨q, hq, hsum⟩ := ih hrest next
    refine ⟨q, ?_, ?_⟩
    · rw [foldFrom, bind_eq_ok_iff]
      exact ⟨next, hnext, hq⟩
    · rw [hsum, hstep, signedSum_cons, add_assoc]

/-- **Sums do not depend on the order.** An expression of additions and subtractions is worth the
signed sum of its rounded operands, in any order of the operands behind the first one.  If none of
them is a percentage, it is off by a thirty-second of an inch for each operand at most. -/
theorem fold_sum {e : Expression} (hsum : ∀ pair ∈ e.rest, pair.1.IsAdditive) :
    ∃ q, e.fold = .ok q ∧
      q.toRat = e.first.quantity.toRat + signedSum (fun o => o.quantity.toRat) e.rest ∧
      (∀ rest : List (Operator × Operand), rest.Perm e.rest → fold ⟨e.first, rest⟩ = .ok q) ∧
      ((∀ o ∈ e.operands, o.percent = false) →
        |q.toRat - (e.first.total + signedSum Operand.total e.rest)| ≤
          (e.operands.length : Rat) / 32) := by
  obtain ⟨q, hq, hvalue⟩ := exists_foldFrom_of_isAdditive hsum e.first.quantity
  refine ⟨q, hq, hvalue, ?_, ?_⟩
  · intro rest hperm
    have hadditive : ∀ pair ∈ rest, pair.1.IsAdditive := fun pair hpair =>
      hsum pair (hperm.subset hpair)
    obtain ⟨q', hq', hvalue'⟩ := exists_foldFrom_of_isAdditive hadditive e.first.quantity
    rw [signedSum_perm _ hperm, ← hvalue] at hvalue'
    rw [← Quantity.toRat_injective hvalue']
    exact hq'
  · intro hpercent
    obtain ⟨hfirst, hrest⟩ := List.forall_mem_cons.mp hpercent
    have herror := Operand.abs_quantity_sub_total_le hfirst
    have herrors : |signedSum (fun o => o.quantity.toRat) e.rest - signedSum Operand.total e.rest| ≤
        e.rest.length * (1 / 32) := abs_signedSum_sub_le fun pair hpair =>
      Operand.abs_quantity_sub_total_le (hrest pair.2 (List.mem_map_of_mem hpair))
    have hlength : (e.operands.length : Rat) / 32 = 1 / 32 + e.rest.length * (1 / 32) := by
      rw [operands, List.length_cons, List.length_map]
      push_cast
      ring
    rw [hvalue, hlength, add_sub_add_comm]
    exact (abs_add_le _ _).trans (add_le_add herror herrors)

/-- A tenth and two tenths less a third: no operand is a multiple of a sixteenth. -/
def tenthsLessThird : Expression :=
  ⟨⟨false, none, some (1 / 10), none, false⟩,
    [(.add, ⟨false, none, some (2 / 10), none, false⟩),
      (.subtract, ⟨false, none, none, some (1 / 3), false⟩)]⟩

theorem fold_sum_tenthsLessThird :
    (∀ pair ∈ tenthsLessThird.rest, pair.1.IsAdditive) ∧
      (∀ o ∈ tenthsLessThird.operands, o.percent = false) ∧
      tenthsLessThird.fold = .ok Quantity.zero ∧
      fold ⟨tenthsLessThird.first, tenthsLessThird.rest.reverse⟩ = .ok Quantity.zero ∧
      |Quantity.zero.toRat -
        (tenthsLessThird.first.total + signedSum Operand.total tenthsLessThird.rest)| ≤
          (tenthsLessThird.operands.length : Rat) / 32 := by
  have hsum : ∀ pair ∈ tenthsLessThird.rest, pair.1.IsAdditive := by
    simp [tenthsLessThird, Operator.IsAdditive]
  have hpercent : ∀ o ∈ tenthsLessThird.operands, o.percent = false := by decide
  have hfold : tenthsLessThird.fold = .ok Quantity.zero := by decide +kernel
  obtain ⟨q, hq, -, hperm, herror⟩ := fold_sum hsum
  cases hfold.symm.trans hq
  exact ⟨hsum, hpercent, hfold, hperm _ (List.reverse_perm _), herror hpercent⟩

end Expression

end TapeMeasure
