import TapeMeasure.Json

/-!
# Reading JSON

Reading is lenient in one point: the numbers that are not finite may be written by name.  It is
strict in all others: control characters may not stand in a string, and nothing but blanks may
stand behind the value.  A text is read as code points, for a string may hold half of a surrogate
pair.

* `readString`, `readNumber`, `readValue`: a part at the front of a text, with what is behind it.
* `Json.read`: the value that code points write, if it is not nested too deep.
* `Json.parse`: the value that a text writes.

`readValue` counts down on the length of the text, which bounds its steps, and on the depth to
which arrays and objects may still be nested.
-/

namespace TapeMeasure

open Text

namespace Json

/-- The reasons for which a text writes no value. -/
inductive Fault where
  | malformed
  /-- A whole number has more digits than are ever read. -/
  | integerTooLong
  /-- Arrays and objects are nested deeper than is allowed. -/
  | tooDeep
  /-- Bytes are no text at all. -/
  | undecodable
  deriving DecidableEq, Repr

/-- The number of digits up to which whole numbers are read. -/
def maxIntegerDigits : Nat :=
  4300

/-! ## Marks -/

/-- The quote around a string. -/
@[match_pattern] def quoteMark : Nat := 0x22

/-- The backslash before an escape. -/
@[match_pattern] def backslash : Nat := 0x5C

/-- The letter of an escape by code. -/
@[match_pattern] def codeLetter : Nat := 0x75

/-- The comma between items and members. -/
@[match_pattern] def comma : Nat := 0x2C

/-- The colon between a name and its value. -/
@[match_pattern] def colon : Nat := 0x3A

/-- The bracket before the items of an array. -/
@[match_pattern] def arrayOpen : Nat := 0x5B

/-- The bracket behind the items of an array. -/
@[match_pattern] def arrayClose : Nat := 0x5D

/-- The brace before the members of an object. -/
@[match_pattern] def objectOpen : Nat := 0x7B

/-- The brace behind the members of an object. -/
@[match_pattern] def objectClose : Nat := 0x7D

/-- The blanks between the parts of a value. -/
def isSpace (point : Nat) : Bool :=
  point == 0x20 || point == 0x09 || point == 0x0A || point == 0x0D

/-- A text without the blanks in front. -/
def skipSpace (points : List Nat) : List Nat :=
  points.dropWhile isSpace

/-! ## Strings -/

/-- The value of a hexadecimal digit. -/
def hexDigit? (point : Nat) : Option Nat :=
  if 0x30 ≤ point ∧ point ≤ 0x39 then some (point - 0x30)
  else if 0x61 ≤ point ∧ point ≤ 0x66 then some (point - 0x61 + 10)
  else if 0x41 ≤ point ∧ point ≤ 0x46 then some (point - 0x41 + 10)
  else none

/-- The code that four hexadecimal digits write. -/
def hexCode? (a b c d : Nat) : Option Nat := do
  let a ← hexDigit? a
  let b ← hexDigit? b
  let c ← hexDigit? c
  let d ← hexDigit? d
  return ((a * 16 + b) * 16 + c) * 16 + d

/-- The code point that stands behind a backslash for another one. -/
def escaped? (point : Nat) : Option Nat :=
  match Char.ofNat point with
  | '"' => some 0x22
  | '\\' => some 0x5C
  | '/' => some 0x2F
  | 'b' => some 0x08
  | 'f' => some 0x0C
  | 'n' => some 0x0A
  | 'r' => some 0x0D
  | 't' => some 0x09
  | _ => none

/-- A code point of a string, and whether it is written by code. -/
structure StringPoint where
  byCode : Bool
  point : Nat
  deriving DecidableEq, Repr

/-- The code points of a string up to its closing quote, with what is behind it. -/
def readPoints : List Nat → Except Fault (List StringPoint × List Nat)
  | [] => .error .malformed
  | quoteMark :: rest => .ok ([], rest)
  | backslash :: codeLetter :: a :: b :: c :: d :: rest =>
    match hexCode? a b c d with
    | none => .error .malformed
    | some point => (readPoints rest).map fun (points, rest) => (⟨true, point⟩ :: points, rest)
  | backslash :: letter :: rest =>
    match escaped? letter with
    | none => .error .malformed
    | some point => (readPoints rest).map fun (points, rest) => (⟨false, point⟩ :: points, rest)
  | point :: rest =>
    if point < 0x20 then .error .malformed
    else (readPoints rest).map fun (points, rest) => (⟨false, point⟩ :: points, rest)

/-- The code points of a string; two halves that are both written by code are one. -/
def joinCodes : List StringPoint → List Nat
  | high :: low :: points =>
    if high.byCode && low.byCode && isHighHalf high.point && isLowHalf low.point then
      joinHalves high.point low.point :: joinCodes points
    else high.point :: joinCodes (low :: points)
  | points => points.map StringPoint.point

/-- The string behind an opening quote, with what is behind it. -/
def readString (points : List Nat) : Except Fault (JsonString × List Nat) :=
  (readPoints points).map fun (points, rest) => (.ofPoints (joinCodes points), rest)

/-! ## Numbers -/

/-- The digits before the point: a lone zero, or digits that do not start with one. -/
def splitWhole : List Char → List Char × List Char
  | '0' :: cs => (['0'], cs)
  | cs => (cs.takeWhile Char.isDigit, cs.dropWhile Char.isDigit)

/-- The places behind a point; a point without a digit behind it is not taken. -/
def splitPlaces? (cs : List Char) : Option (List Char) × List Char :=
  match cs with
  | '.' :: c :: rest =>
    if c.isDigit then
      (some ((c :: rest).takeWhile Char.isDigit), (c :: rest).dropWhile Char.isDigit)
    else (none, cs)
  | _ => (none, cs)

/-- The exponent; a mark without a digit behind it and its sign is not taken. -/
def splitExponent? (cs : List Char) : Option Int × List Char :=
  match cs with
  | c :: rest =>
    let (negative, rest) := Decimal.splitSign rest
    let digits := rest.takeWhile Char.isDigit
    if (c = 'e' ∨ c = 'E') ∧ digits ≠ [] then
      let magnitude : Int := natOfDigits digits
      (some (if negative then -magnitude else magnitude), rest.dropWhile Char.isDigit)
    else (none, cs)
  | [] => (none, cs)

/-- The number in front of a numeral, with what is behind it. -/
def readNumeral (cs : List Char) : Except Fault (Json × List Char) :=
  let (negative, unsigned) :=
    match cs with
    | '-' :: cs => (true, cs)
    | cs => (false, cs)
  let (whole, rest) := splitWhole unsigned
  let (places, rest) := splitPlaces? rest
  let (exponent, rest) := splitExponent? rest
  if whole = [] then .error .malformed
  else if places.isSome || exponent.isSome then
    let digits := places.getD []
    let value : Decimal :=
      ⟨negative, natOfDigits (whole ++ digits), exponent.getD 0 - digits.length⟩
    .ok (double (Double.ofDecimal value), rest)
  else if maxIntegerDigits < whole.length then .error .integerTooLong
  else
    let magnitude : Int := natOfDigits whole
    .ok (integer (if negative then -magnitude else magnitude), rest)

/-- The characters of numerals. -/
def numeralMarks : List Char :=
  "0123456789+-.eE".toList

/-- The number in front of a text, with what is behind it. -/
def readNumber (points : List Nat) : Except Fault (Json × List Nat) :=
  let numeral := characters (points.takeWhile (codePoints numeralMarks).contains)
  (readNumeral numeral).map fun (value, left) =>
    (value, points.drop (numeral.length - left.length))

/-! ## Values -/

/-- The values that are written by name. -/
def named : List (String × Json) :=
  [("null", null), ("true", bool true), ("false", bool false), ("NaN", double .nan),
    ("Infinity", double (.infinite false)), ("-Infinity", double (.infinite true))]

/-- The named value in front of a text, with what is behind it. -/
def readNamed? (points : List Nat) : Option (Json × List Nat) :=
  named.findSome? fun (name, value) =>
    let name := codePoints name.toList
    if name.isPrefixOf points then some (value, points.drop name.length) else none

mutual

/-- The value in front of a text, with what is behind it. -/
def readValue : Nat → Nat → List Nat → Except Fault (Json × List Nat)
  | 0, _, _ => .error .malformed
  | steps + 1, depth, points =>
    match points with
    | quoteMark :: rest => (readString rest).map fun (text, rest) => (string text, rest)
    | arrayOpen :: rest =>
      match depth with
      | 0 => .error .tooDeep
      | depth + 1 =>
        match skipSpace rest with
        | arrayClose :: rest => .ok (array [], rest)
        | items => (readItems steps depth items).map fun (items, rest) => (array items, rest)
    | objectOpen :: rest =>
      match depth with
      | 0 => .error .tooDeep
      | depth + 1 =>
        match skipSpace rest with
        | objectClose :: rest => .ok (object [], rest)
        | members =>
          (readMembers steps depth members).map fun (members, rest) => (object members, rest)
    | points =>
      match readNamed? points with
      | some result => .ok result
      | none => readNumber points

/-- The items of an array up to its closing bracket. -/
def readItems : Nat → Nat → List Nat → Except Fault (List Json × List Nat)
  | 0, _, _ => .error .malformed
  | steps + 1, depth, points => do
    let (item, rest) ← readValue steps depth points
    match skipSpace rest with
    | arrayClose :: rest => return ([item], rest)
    | comma :: rest =>
      let (items, rest) ← readItems steps depth (skipSpace rest)
      return (item :: items, rest)
    | _ => .error .malformed

/-- The members of an object up to its closing brace. -/
def readMembers : Nat → Nat → List Nat → Except Fault (List (JsonString × Json) × List Nat)
  | 0, _, _ => .error .malformed
  | steps + 1, depth, points => do
    match points with
    | quoteMark :: points =>
      let (name, rest) ← readString points
      match skipSpace rest with
      | colon :: rest =>
        let (value, rest) ← readValue steps depth (skipSpace rest)
        match skipSpace rest with
        | objectClose :: rest => return ([(name, value)], rest)
        | comma :: rest =>
          let (members, rest) ← readMembers steps depth (skipSpace rest)
          return ((name, value) :: members, rest)
        | _ => .error .malformed
      | _ => .error .malformed
    | _ => .error .malformed

end

/-- The value that code points write, with arrays and objects nested at most so deep. -/
def read (depth : Nat) (points : List Nat) : Except Fault Json := do
  let (value, rest) ← readValue (2 * points.length + 1) depth (skipSpace points)
  if skipSpace rest = [] then return value else .error .malformed

/-- The value that a text writes, however deep it is nested. -/
def parse (text : String) : Except Fault Json :=
  read text.length (codePoints text.toList)

end Json

end TapeMeasure
