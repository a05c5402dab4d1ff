import TapeMeasure.Calculation
import TapeMeasure.Text.DecimalDigit

/-!
# The keypad

A keypad session holds the expression that is being typed, what the display shows, the last answer,
and whether that answer is what was produced last.  An operator pressed right after an answer
continues from it.

* `Session.append`, `Session.appendFraction`, `Session.appendOperator`, `Session.backspace`,
  `Session.clear`, `Session.enter`: what the keys do.
* `Session.compute`, `Session.enterAndCompute`: calculation, which gives an outcome beside the
  session.
* `Key` and `Session.press`: the keys as one type.
-/

namespace TapeMeasure

namespace Keypad

/-- The state of a keypad. -/
structure Session where
  expression : String
  display : String
  lastResult : Option Result
  justCalculated : Bool
  deriving DecidableEq, Repr

namespace Session

/-- The state after switching on, and after clearing. -/
def empty : Session :=
  ⟨"", "0", none, false⟩

/-- Takes over what a calculation gave; only an answer changes the state. -/
def accept (s : Session) : Outcome → Session
  | .answer result =>
    { s with display := result.feetInches, lastResult := some result, justCalculated := true }
  | _ => s

/-- Calculates the expression. -/
def compute (s : Session) : Outcome × Session :=
  let outcome := calculate s.expression
  (outcome, s.accept outcome)

/-- Replaces the expression. -/
def enter (value : String) (s : Session) : Session :=
  { s with expression := value, justCalculated := false }

/-- Replaces the expression and calculates it; the new expression stays in any case. -/
def enterAndCompute (value : String) (s : Session) : Outcome × Session :=
  let outcome := calculate value
  (outcome, { s with expression := value }.accept outcome)

/-- Forgets everything. -/
def clear (_ : Session) : Session :=
  empty

/-- Removes the last character. -/
def backspace (s : Session) : Session :=
  { s with expression := String.ofList s.expression.toList.dropLast, justCalculated := false }

/-- Appends a digit or a point; after an answer it starts a new expression. -/
def append (key : String) (s : Session) : Session :=
  if s.justCalculated then { s with expression := key, justCalculated := false }
  else { s with expression := s.expression ++ key }

/-- A text without its inch marks. -/
def withoutInchMarks (text : String) : String :=
  String.ofList (text.toList.filter (· ≠ '"'))

/-- Whether a text ends with a digit; a line end behind it does not count. -/
def endsWithDigit (cs : List Char) : Bool :=
  match cs.reverse with
  | '\n' :: c :: _ => Text.isDecimalDigit c
  | c :: _ => Text.isDecimalDigit c
  | [] => false

/-- Appends a fraction without its mark; behind a digit a space keeps the two apart. -/
def appendFraction (fraction : String) (s : Session) : Session :=
  let value := withoutInchMarks fraction
  if s.justCalculated && s.lastResult.isSome then
    { s with expression := value, justCalculated := false }
  else if endsWithDigit s.expression.toList then
    { s with expression := s.expression ++ " " ++ value }
  else { s with expression := s.expression ++ value }

/-- The text that an expression continues with after an answer. -/
def continuation (result : Result) : String :=
  if result.isInchMode then withoutInchMarks result.feetInches else result.feetInches

/-- Appends an operator between spaces, continuing from an answer that was just produced. -/
def appendOperator (op : String) (s : Session) : Session :=
  let spaced := " " ++ op ++ " "
  match s.justCalculated, s.lastResult with
  | true, some result =>
    { s with expression := continuation result ++ spaced, justCalculated := false }
  | _, _ => { s with expression := s.expression ++ spaced }

end Session

/-- The keys, with what is typed by them. -/
inductive Key where
  | append (value : String)
  | fraction (value : String)
  | operator (value : String)
  | enter (value : String)
  | enterAndCompute (value : String)
  | compute
  | backspace
  | clear
  deriving DecidableEq, Repr

/-- What a key does, and the outcome if it calculates. -/
def Session.press (s : Session) : Key → Option Outcome × Session
  | .append value => (none, s.append value)
  | .fraction value => (none, s.appendFraction value)
  | .operator value => (none, s.appendOperator value)
  | .enter value => (none, s.enter value)
  | .enterAndCompute value => let (outcome, s) := s.enterAndCompute value; (some outcome, s)
  | .compute => let (outcome, s) := s.compute; (some outcome, s)
  | .backspace => (none, s.backspace)
  | .clear => (none, s.clear)

/-- The state after some keys. -/
def Session.pressAll (s : Session) (keys : List Key) : Session :=
  keys.foldl (fun s key => (s.press key).2) s

end Keypad

end TapeMeasure
