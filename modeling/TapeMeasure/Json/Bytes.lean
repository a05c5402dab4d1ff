import TapeMeasure.Json.Reader
import TapeMeasure.Text.Encoding

/-!
# JSON from bytes

The bytes of a JSON value do not say how they are encoded, but the value starts with a mark of the
grammar, whose code is below 128.  Where the zeros are among the first bytes tells the encoding,
unless a byte order mark does.

* `encodingOf`: the encoding of bytes, and the bytes behind a byte order mark.
* `Json.ofBytes`: the value that bytes write.
-/

namespace TapeMeasure

open Text

namespace Json

/-- The byte order marks; the longer of two comes first. -/
def byteOrderMarks : List (List UInt8 × Encoding) :=
  [([0x00, 0x00, 0xFE, 0xFF], .utf32 .highFirst), ([0xFF, 0xFE, 0x00, 0x00], .utf32 .lowFirst),
    ([0xFE, 0xFF], .utf16 .highFirst), ([0xFF, 0xFE], .utf16 .lowFirst),
    ([0xEF, 0xBB, 0xBF], .utf8)]

/-- The encoding that the zeros among the first bytes tell. Three bytes or one tell none. -/
def encodingByZeros : List UInt8 → Encoding
  | a :: b :: c :: d :: _ =>
    if a == 0 then if b == 0 then .utf32 .highFirst else .utf16 .highFirst
    else if b == 0 then if c == 0 && d == 0 then .utf32 .lowFirst else .utf16 .lowFirst
    else .utf8
  | [a, b] => if a == 0 then .utf16 .highFirst else if b == 0 then .utf16 .lowFirst else .utf8
  | _ => .utf8

/-- The encoding of bytes, and the bytes behind a byte order mark. -/
def encodingOf (bytes : List UInt8) : Encoding × List UInt8 :=
  match byteOrderMarks.find? fun (mark, _) => mark.isPrefixOf bytes with
  | some (mark, encoding) => (encoding, bytes.drop mark.length)
  | none => (encodingByZeros bytes, bytes)

/-- The value that bytes write, with arrays and objects nested at most so deep. -/
def ofBytes (depth : Nat) (bytes : List UInt8) : Except Fault Json :=
  let (encoding, bytes) := encodingOf bytes
  match encoding.decode? bytes with
  | none => .error .undecodable
  | some points => read depth points

end Json

end TapeMeasure
