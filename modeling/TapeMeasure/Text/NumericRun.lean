import TapeMeasure.Text.Digit

/-!
# Runs of digits and points

The numeric parts of a text are its longest runs of digits and points.

* `numericRuns`: the runs of a text in order, with an empty one wherever two other characters meet.
* `HasShortNumbers`: no run has more digits than a literal may have.
-/

namespace TapeMeasure.Text

/-- Whether a character can stand in a number. -/
def isNumeric (c : Char) : Bool :=
  c.isDigit || c == '.'

/-- The runs of digits and points between the other characters of a text. -/
def numericRuns : List Char → List (List Char)
  | [] => [[]]
  | c :: cs =>
    match numericRuns cs with
    | [] => [[]]
    | run :: runs => if isNumeric c then (c :: run) :: runs else [] :: run :: runs

/-- No number of a text has more digits than the limit, points not counted. -/
def HasShortNumbers (limit : Nat) (cs : List Char) : Prop :=
  ∀ run ∈ numericRuns cs, run.countP Char.isDigit ≤ limit

instance (limit : Nat) (cs : List Char) : Decidable (HasShortNumbers limit cs) :=
  inferInstanceAs (Decidable (∀ run ∈ numericRuns cs, run.countP Char.isDigit ≤ limit))

/-- A text always has a run, be it empty. -/
theorem numericRuns_ne_nil (cs : List Char) : numericRuns cs ≠ [] := by
  cases cs with
  | nil => simp [numericRuns]
  | cons c cs =>
    simp only [numericRuns]
    split
    · simp
    · split <;> simp

end TapeMeasure.Text
