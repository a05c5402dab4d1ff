import TapeMeasure.Text.CodePoint

/-!
# Encodings

A text is sent as bytes: every code point as one byte to four, as one unit of sixteen bits or two,
or as one unit of thirty-two bits.  Units come with their first byte high or low.

* `Encoding.decode?`: the code points of bytes.  Halves of surrogate pairs are let through.
-/

namespace TapeMeasure.Text

/-- Which byte of a unit comes first. -/
inductive ByteOrder where
  | highFirst
  | lowFirst
  deriving DecidableEq, Repr

/-- The number that bytes in order write. -/
def ByteOrder.value : ByteOrder → List UInt8 → Nat
  | highFirst, bytes => bytes.foldl (fun value byte => value * 0x100 + byte.toNat) 0
  | lowFirst, bytes => bytes.foldr (fun byte value => value * 0x100 + byte.toNat) 0

/-- How code points are written as bytes. -/
inductive Encoding where
  | utf8
  | utf16 (order : ByteOrder)
  | utf32 (order : ByteOrder)
  deriving DecidableEq, Repr

/-- The lowest number that is no code point. -/
def codePointLimit : Nat :=
  0x110000

/-- Whether a byte continues a code point. -/
def isTail (byte : UInt8) : Bool :=
  0x80 ≤ byte && byte ≤ 0xBF

/-- The six bits of a byte that continues a code point. -/
def tailBits (byte : UInt8) : Nat :=
  byte.toNat % 0x40

/-- The code points of bytes of which each code point takes one to four, and no more than it
needs. -/
def decodeUtf8? : List UInt8 → Option (List Nat)
  | [] => some []
  | a :: bytes =>
    if a < 0x80 then (decodeUtf8? bytes).map (a.toNat :: ·)
    else
      match bytes with
      | [] => none
      | b :: bytes =>
        if !isTail b then none
        else if 0xC2 ≤ a && a ≤ 0xDF then
          (decodeUtf8? bytes).map ((a.toNat % 0x20 * 0x40 + tailBits b) :: ·)
        else
          match bytes with
          | [] => none
          | c :: bytes =>
            let high := a.toNat % 0x10 * 0x40 + tailBits b
            if !isTail c then none
            else if 0xE0 ≤ a && a ≤ 0xEF && 0x20 ≤ high then
              (decodeUtf8? bytes).map ((high * 0x40 + tailBits c) :: ·)
            else
              match bytes with
              | [] => none
              | d :: bytes =>
                let point := (high * 0x40 + tailBits c) * 0x40 + tailBits d
                if isTail d && 0xF0 ≤ a && a ≤ 0xF4 && 0x10000 ≤ point &&
                    point < codePointLimit then
                  (decodeUtf8? bytes).map (point :: ·)
                else none

/-- The units of sixteen bits that bytes write. -/
def units16? (order : ByteOrder) : List UInt8 → Option (List Nat)
  | [] => some []
  | a :: b :: bytes => (units16? order bytes).map (order.value [a, b] :: ·)
  | [_] => none

/-- The code points that bytes write as units of thirty-two bits. -/
def units32? (order : ByteOrder) : List UInt8 → Option (List Nat)
  | [] => some []
  | a :: b :: c :: d :: bytes =>
    let point := order.value [a, b, c, d]
    if point < codePointLimit then (units32? order bytes).map (point :: ·) else none
  | _ => none

/-- The code points of bytes; bytes that are no text have none. -/
def Encoding.decode? : Encoding → List UInt8 → Option (List Nat)
  | utf8, bytes => decodeUtf8? bytes
  | utf16 order, bytes => (units16? order bytes).map joinPairs
  | utf32 order, bytes => units32? order bytes

end TapeMeasure.Text
