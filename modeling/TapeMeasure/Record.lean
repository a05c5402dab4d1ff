import TapeMeasure.Calculation
import TapeMeasure.Text.Quoted

/-!
# Records of calculations

A record says what was calculated, how it was entered and what came of it, in the form in which a
history keeps it.

* `InputMethod`: how an expression was entered; `InputMethod.refusal` is said about other names.
* `CalcSubtype.classify`: which units an expression was written with.
* `Record.ofResult`, `Record.failed`: the records of an answer and of a failure.
-/

namespace TapeMeasure

/-- How an expression was entered. -/
inductive InputMethod where
  | keypad
  | voice
  | camera
  deriving DecidableEq, Repr

namespace InputMethod

/-- The name of an input method. -/
def text : InputMethod → String
  | keypad => "keypad"
  | voice => "voice"
  | camera => "camera"

/-- The input method with a name. -/
def ofText? (name : String) : Option InputMethod :=
  [keypad, voice, camera].find? fun method => method.text == name

/-- What is said about a name that no input method has. -/
def refusal (name : String) : String :=
  String.ofList (Text.quote name.toList) ++ " is not a valid InputMethod"

@[simp] theorem ofText?_text (method : InputMethod) : ofText? method.text = some method := by
  cases method <;> decide

end InputMethod

/-- The broad kind of a calculation: a length, or plain numbers. -/
inductive CalcType where
  | length
  | custom
  deriving DecidableEq, Repr

/-- The name of a kind. -/
def CalcType.text : CalcType → String
  | length => "length"
  | custom => "custom"

/-- Measurements are lengths. -/
def CalcType.classify (isInchMode : Bool) : CalcType :=
  if isInchMode then length else custom

/-- The units that an expression is written with. -/
inductive CalcSubtype where
  | feetInches
  | feetOnly
  | inchesFractions
  | mixed
  | decimal
  deriving DecidableEq, Repr

/-- The name of the units. -/
def CalcSubtype.text : CalcSubtype → String
  | feetInches => "feet_inches"
  | feetOnly => "feet_only"
  | inchesFractions => "inches_fractions"
  | mixed => "mixed"
  | decimal => "decimal"

/-- The units of an expression, by the characters that occur in it. -/
def CalcSubtype.classify (expression : String) (isInchMode : Bool) : CalcSubtype :=
  let occurs (c : Char) : Bool := expression.toList.contains c
  if !isInchMode then decimal
  else if occurs '\'' && occurs '"' then feetInches
  else if occurs '\'' then feetOnly
  else if occurs '"' || occurs '/' then inchesFractions
  else mixed

/-- What a history keeps of a calculation. -/
structure Record where
  calcType : CalcType
  calcSubtype : Option CalcSubtype
  inputExpression : String
  resultValue : Option Double
  resultUnit : Option String
  resultFormatted : Option String
  inputMethod : InputMethod
  voiceLogId : Option String
  tradeContext : Option String
  wasSuccessful : Bool
  appVersion : Option String
  deriving DecidableEq, Repr

namespace Record

/-- The record of an answer. -/
def ofResult (result : Result) (inputMethod : InputMethod)
    (voiceLogId tradeContext appVersion : Option String) : Record where
  calcType := CalcType.classify result.isInchMode
  calcSubtype := some (CalcSubtype.classify result.expression result.isInchMode)
  inputExpression := result.expression
  resultValue := some result.decimal
  resultUnit := some (if result.isInchMode then "inches" else "decimal")
  resultFormatted := some (if result.isInchMode then result.feetInches else result.totalInches)
  inputMethod := inputMethod
  voiceLogId := voiceLogId
  tradeContext := tradeContext
  wasSuccessful := true
  appVersion := appVersion

/-- The record of an expression without an answer. -/
def failed (expression : String) (inputMethod : InputMethod) (appVersion : Option String) :
    Record where
  calcType := .custom
  calcSubtype := none
  inputExpression := expression
  resultValue := none
  resultUnit := none
  resultFormatted := none
  inputMethod := inputMethod
  voiceLogId := none
  tradeContext := none
  wasSuccessful := false
  appVersion := appVersion

end Record

end TapeMeasure
