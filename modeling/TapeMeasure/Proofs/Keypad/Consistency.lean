import TapeMeasure.Keypad
import TapeMeasure.Proofs.Calculation.Continued

/-!
# The fields of a session

The four fields of a session are written by different keys, and still hang together.  Typing leaves
the display and the last answer as they are, and at most takes back that a calculation came last;
a calculation writes all three of them at once, or none; only clearing forgets an answer.

* `Types`: one session comes from another by typing; one lemma for each key that types.
* `Remembers`: the last answer of a session is the answer to its own expression.
* `Consistent`: what the display, the last answer and the mark of a calculation say of each other.
* `Types.consistent`, `Consistent.accept`: neither typing nor calculating breaks that.
* `Consistent.press`, `Consistent.pressAll`: no key and no sequence of keys does.
* `consistent_pressAll`: every session that can be reached is consistent.
-/

namespace TapeMeasure

namespace Keypad

variable {s t : Session}

/-! ## Typing -/

/-- A session comes from another by typing: what the last calculation gave is not touched. -/
structure Types (s t : Session) : Prop where
  display_eq : t.display = s.display
  lastResult_eq : t.lastResult = s.lastResult
  justCalculated_of : t.justCalculated = true → s.justCalculated = true

theorem types_append (s : Session) (key : String) : Types s (s.append key) := by
  rw [Session.append]
  split
  · exact ⟨rfl, rfl, fun h => absurd h Bool.false_ne_true⟩
  · exact ⟨rfl, rfl, id⟩

theorem types_appendFraction (s : Session) (fraction : String) :
    Types s (s.appendFraction fraction) := by
  rw [Session.appendFraction]
  split
  · exact ⟨rfl, rfl, fun h => absurd h Bool.false_ne_true⟩
  · split <;> exact ⟨rfl, rfl, id⟩

theorem types_appendOperator (s : Session) (op : String) : Types s (s.appendOperator op) := by
  rw [Session.appendOperator]
  split
  · exact ⟨rfl, rfl, fun h => absurd h Bool.false_ne_true⟩
  · exact ⟨rfl, rfl, id⟩

theorem types_enter (s : Session) (value : String) : Types s (s.enter value) :=
  ⟨rfl, rfl, fun h => absurd h Bool.false_ne_true⟩

theorem types_backspace (s : Session) : Types s s.backspace :=
  ⟨rfl, rfl, fun h => absurd h Bool.false_ne_true⟩

/-! ## The last answer -/

/-- The last answer, if there is one, is the answer to its expression. -/
def Remembers (s : Session) : Prop :=
  ∀ r ∈ s.lastResult, calculate r.expression = .answer r

theorem Remembers.accept (h : Remembers s) (text : String) :
    Remembers (s.accept (calculate text)) := by
  cases hcalculate : calculate text with
  | answer r =>
    intro last hlast
    obtain rfl : r = last := Option.some.inj hlast
    rw [(exists_folds_of_answer hcalculate).1]
    exact hcalculate
  | failure event => exact h
  | breakdown => exact h

/-! ## Consistent sessions -/

/-- What the fields of a session say of each other. -/
structure Consistent (s : Session) : Prop where
  /-- A calculation that came last has left an answer. -/
  lastResult_of_justCalculated : s.justCalculated = true → ∃ r, s.lastResult = some r
  /-- The display shows the last answer, and zero without one. -/
  display_eq : s.display = (s.lastResult.map Result.feetInches).getD "0"
  /-- The last answer is the answer to its expression. -/
  remembers : Remembers s

theorem consistent_empty : Consistent Session.empty where
  lastResult_of_justCalculated h := absurd h Bool.false_ne_true
  display_eq := rfl
  remembers r hr := absurd hr (Option.not_mem_none r)

theorem Types.consistent (htypes : Types s t) (h : Consistent s) : Consistent t where
  lastResult_of_justCalculated hjust := by
    rw [htypes.lastResult_eq]
    exact h.lastResult_of_justCalculated (htypes.justCalculated_of hjust)
  display_eq := by
    rw [htypes.display_eq, htypes.lastResult_eq]
    exact h.display_eq
  remembers := by
    intro r hr
    rw [htypes.lastResult_eq] at hr
    exact h.remembers r hr

/-- A calculation writes what belongs together, whichever text it calculates. -/
theorem Consistent.accept (h : Consistent s) (text : String) :
    Consistent (s.accept (calculate text)) := by
  have hremembers := h.remembers.accept text
  cases hcalculate : calculate text with
  | answer r =>
    rw [hcalculate] at hremembers
    exact ⟨fun _ => ⟨r, rfl⟩, rfl, hremembers⟩
  | failure event => exact h
  | breakdown => exact h

theorem Consistent.press (h : Consistent s) (key : Key) : Consistent (s.press key).2 := by
  cases key with
  | append value => exact (types_append s value).consistent h
  | fraction value => exact (types_appendFraction s value).consistent h
  | operator value => exact (types_appendOperator s value).consistent h
  | enter value => exact (types_enter s value).consistent h
  | enterAndCompute value =>
    -- the expression is replaced first, also when there is no answer to it
    have hvalue : Consistent { s with expression := value } := ⟨h.1, h.2, h.3⟩
    exact hvalue.accept value
  | compute => exact h.accept s.expression
  | backspace => exact (types_backspace s).consistent h
  | clear => exact consistent_empty

theorem Consistent.pressAll (h : Consistent s) (keys : List Key) :
    Consistent (s.pressAll keys) := by
  induction keys generalizing s with
  | nil => exact h
  | cons key keys ih => exact ih (h.press key)

/-- **Every session that can be reached is consistent.** After any keys, with any texts: if a
calculation came last there is a last answer, the display shows the last answer or zero, and the
last answer is the answer to its expression. -/
theorem consistent_pressAll (keys : List Key) :
    let s := Session.empty.pressAll keys
    (s.justCalculated = true → ∃ r, s.lastResult = some r) ∧
      (∀ r, s.lastResult = some r → s.display = r.feetInches) ∧
      (s.lastResult = none → s.display = "0") ∧
      ∀ r, s.lastResult = some r → calculate r.expression = .answer r := by
  intro s
  have h : Consistent s := consistent_empty.pressAll keys
  refine ⟨h.lastResult_of_justCalculated, fun r hr => ?_, fun hnone => ?_, h.remembers⟩
  · rw [h.display_eq, hr]
    rfl
  · rw [h.display_eq, hnone]
    rfl

end Keypad

end TapeMeasure
