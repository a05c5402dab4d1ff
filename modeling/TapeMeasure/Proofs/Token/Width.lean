import TapeMeasure.Proofs.Text.Digit
import TapeMeasure.Proofs.Token.Layout

/-!
# How long a text with given tokens is

The characters of a text are at least as many as its tokens need.

* `leastWidth`, `leastLength`: the characters that a token and a list of tokens need.
* `Spells.leastWidth_le`, `LaidOut.leastLength_le`: a spelling and a layout have as many.
* `leastLength_le_of_ofText`: so does the text that the tokens are read from.
-/

namespace TapeMeasure

open Text

namespace Token

/-- The characters that a token needs: those of a number, the digits above the slash of a fraction
with the slash and a digit below it, and one for a mark. -/
def leastWidth : Token → Nat
  | number literal _ _ => literal.text.toList.length
  | fraction ratio _ _ => (digitsOfNat ratio.numerator.natAbs).length + 2
  | _ => 1

/-- The characters that tokens need one behind the other. -/
def leastLength (tokens : List Token) : Nat :=
  (tokens.map leastWidth).sum

@[simp] theorem leastLength_nil : leastLength [] = 0 := rfl

@[simp] theorem leastLength_cons (token : Token) (tokens : List Token) :
    leastLength (token :: tokens) = token.leastWidth + leastLength tokens := by
  rw [leastLength, List.map_cons, List.sum_cons, leastLength]

@[simp] theorem leastLength_append (xs ys : List Token) :
    leastLength (xs ++ ys) = leastLength xs + leastLength ys := by
  rw [leastLength, List.map_append, List.sum_append, leastLength, leastLength]

/-- Zeros in front make a spelling longer than it need be, and so does a sign. -/
theorem Spells.leastWidth_le {spelling : List Char} {token : Token} (h : Spells spelling token) :
    token.leastWidth ≤ spelling.length := by
  cases h with
  | number negative position form size =>
    rw [leastWidth, List.length_append]
    exact Nat.le_add_left _ _
  | @fraction ratio above below negative position aboveForm belowForm hnumerator hdenominator =>
    have habove : (digitsOfNat (natOfDigits above)).length ≤ above.length :=
      (length_digitsOfNat_le_iff (List.length_pos_iff.mpr aboveForm.ne)).mpr
        (natOfDigits_lt aboveForm.isDigit)
    have hbelow : 0 < below.length := List.length_pos_iff.mpr belowForm.ne
    rw [leastWidth, hnumerator, Int.natAbs_natCast, List.length_append, List.length_append,
      List.length_cons]
    omega
  | _ => exact le_rfl

/-- A layout has room for its tokens. -/
theorem LaidOut.leastLength_le {position : Nat} {cs : List Char} {tokens : List Token}
    (h : LaidOut position cs tokens) : leastLength tokens ≤ cs.length := by
  induction h with
  | nil position => exact le_rfl
  | blank hblank hrest ih =>
    rw [List.length_cons]
    exact Nat.le_succ_of_le ih
  | token hspells hseparate hclosed hrest ih =>
    rw [leastLength_cons, List.length_append]
    exact Nat.add_le_add hspells.leastWidth_le ih
  | feet hspells hrest ih =>
    have hmark := (Spells.feetMark 0).leastWidth_le
    rw [leastLength_cons, leastLength_cons, List.length_append, List.length_cons, Nat.add_comm _ 1]
    exact Nat.add_le_add hspells.leastWidth_le (Nat.add_le_add hmark ih)

theorem length_trim_le (cs : List Char) : (trim cs).length ≤ cs.length := by
  rw [trim, List.length_reverse]
  refine (List.dropWhile_suffix _).length_le.trans ?_
  rw [List.length_reverse]
  exact (List.dropWhile_suffix _).length_le

/-- A text has room for its tokens. -/
theorem leastLength_le_of_ofText {text : String} {tokens : List Token}
    (h : ofText text = .ok tokens) : leastLength tokens ≤ text.length :=
  calc
    leastLength tokens ≤ (plainMarks (trim text.toList)).length :=
      (laidOut_of_scan h).leastLength_le
    _ ≤ (trim text.toList).length := length_plainMarks_le _
    _ ≤ text.toList.length := length_trim_le _
    _ = text.length := String.length_toList

end Token

end TapeMeasure
