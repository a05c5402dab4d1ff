import TapeMeasure.Decimal.Precision
import TapeMeasure.Decimal.Text
import TapeMeasure.Json
import TapeMeasure.Text.Quoted

/-!
# Writing JSON

A value is written without blanks.  In a string the quote, the backslash and the controls are
escaped, and half of a surrogate pair is written by its code.  A double is written with its exact
decimal expansion, so reading gives it back; the numbers that are not finite are written by name.
-/

namespace TapeMeasure

open Text

namespace Json

/-- A character as it stands in a string. -/
def writeChar (c : Char) : List Char :=
  if c = '"' ∨ c = '\\' then ['\\', c]
  else if c.toNat < 0x20 then '\\' :: 'u' :: hexDigits 4 c.toNat
  else [c]

/-- A code point as it stands in a string. -/
def writePoint (point : Nat) : List Char :=
  if isHalf point then '\\' :: 'u' :: hexDigits 4 point else writeChar (Char.ofNat point)

/-- A string between its quotes. -/
def writeString : JsonString → List Char
  | .whole text => '"' :: text.toList.flatMap writeChar ++ ['"']
  | .broken points => '"' :: points.flatMap writePoint ++ ['"']

/-- A double with all its places, of which it has one at least. -/
def writeDouble : Double → List Char
  | .finite negative units =>
    let exact := Decimal.normalize ⟨negative, units * Nat.pow 5 1074, -1074⟩
    if exact.exponent < 0 then exact.plain else exact.plain ++ ['.', '0']
  | .infinite negative => (if negative then "-Infinity" else "Infinity").toList
  | .nan => "NaN".toList

mutual

/-- A value. -/
def write : Json → List Char
  | null => "null".toList
  | bool value => (if value then "true" else "false").toList
  | integer value => digitsOfInt value
  | double value => writeDouble value
  | string text => writeString text
  | array items => '[' :: writeItems items
  | object members => '\x7b' :: writeMembers members

/-- The items of an array and its closing bracket. -/
def writeItems : List Json → List Char
  | [] => [']']
  | [item] => write item ++ [']']
  | item :: items => write item ++ ',' :: writeItems items

/-- The members of an object and its closing brace. -/
def writeMembers : List (JsonString × Json) → List Char
  | [] => ['\x7d']
  | [(name, value)] => writeString name ++ ':' :: write value ++ ['\x7d']
  | (name, value) :: members =>
    writeString name ++ ':' :: write value ++ ',' :: writeMembers members

end

/-- The text of a value. -/
def render (value : Json) : String :=
  String.ofList (write value)

end Json

end TapeMeasure
