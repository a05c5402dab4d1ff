import TapeMeasure.Proofs.Token.Append
import TapeMeasure.Token.Spelling

/-!
# The place of a text

Where a text stands has no effect on its tokens other than on their positions, and none on its
faults other than on where they are found.

* `placeless`: what is left of a result when its places are taken out.
* `placeless_lexeme`, `placeless_scan`: the place makes no other difference.
* `exists_scan_of_ofText`: the tokens of a text, wherever it stands.
* `exists_ofText_append_operator`: the tokens of two texts with an operator between them.
-/

namespace TapeMeasure

open Text

namespace Token

/-- A result without the places in it; `f` takes them out of what was read. -/
def placeless {α β : Type} (f : α → β) (result : Except Fault α) : Except Cause β :=
  (result.map f).mapError Fault.cause

@[simp] theorem placeless_ok {α β : Type} (f : α → β) (read : α) :
    placeless f (.ok read) = .ok (f read) := rfl

@[simp] theorem placeless_error {α β : Type} (f : α → β) (fault : Fault) :
    placeless f (.error fault) = .error fault.cause := rfl

/-- A lexeme without the places of its tokens. -/
def Lexeme.unplaced (l : Lexeme) : Lexeme :=
  ⟨l.tokens.map Token.unplaced, l.more⟩

theorem isOperator_unplaced (token : Token) : token.unplaced.isOperator = token.isOperator := by
  cases token <;> rfl

theorem isNegative_unplaced (token : Token) : token.unplaced.isNegative = token.isNegative := by
  cases token <;> rfl

theorem endsOperand_map_unplaced (afterOperand : Bool) (tokens : List Token) :
    endsOperand afterOperand (tokens.map unplaced) = endsOperand afterOperand tokens := by
  rw [endsOperand, endsOperand, List.getLast?_map]
  cases tokens.getLast? with
  | none => rfl
  | some token => exact congrArg not (isOperator_unplaced token)

/-! ## One step

The sign and the first digit stand at `start` and `position`; the primed places are those of the
same text elsewhere. -/

section

variable (negative : Bool) (start start' position position' : Nat) (cs : List Char)

theorem placeless_fractionLexeme (slash slash' numerator : Nat) :
    placeless Lexeme.unplaced (fractionLexeme negative start slash numerator cs) =
      placeless Lexeme.unplaced (fractionLexeme negative start' slash' numerator cs) := by
  rw [fractionLexeme, fractionLexeme]
  simp only
  split
  · rfl
  · split
    · rfl
    · split
      · rfl
      · split <;> rfl

theorem placeless_map_more {x y : Except Fault Lexeme} (f : Nat → Nat)
    (h : placeless Lexeme.unplaced x = placeless Lexeme.unplaced y) :
    placeless Lexeme.unplaced (x.map fun l => { l with more := f l.more }) =
      placeless Lexeme.unplaced (y.map fun l => { l with more := f l.more }) := by
  have hmap : ∀ z : Except Fault Lexeme,
      placeless Lexeme.unplaced (z.map fun l => { l with more := f l.more }) =
        (placeless Lexeme.unplaced z).map fun l => { l with more := f l.more } := by
    intro z
    cases z <;> rfl
  rw [hmap, hmap, h]

theorem placeless_numberLexeme (h : startsNumber cs = true) :
    placeless Lexeme.unplaced (numberLexeme negative start position cs h) =
      placeless Lexeme.unplaced (numberLexeme negative start' position' cs h) := by
  rw [numberLexeme, numberLexeme]
  simp only
  split
  · rfl
  · split
    · split
      · rfl
      · exact placeless_map_more _ (placeless_fractionLexeme negative start start' _ _ _ _)
    · rfl
    · rfl

theorem placeless_markLexeme (c : Char) :
    placeless Lexeme.unplaced (markLexeme position c) =
      placeless Lexeme.unplaced (markLexeme position' c) := by
  rw [markLexeme, markLexeme]
  split
  · rfl
  · split
    · rfl
    · split
      · rfl
      · split <;> rfl

theorem placeless_lexeme (afterOperand : Bool) (c : Char) :
    placeless Lexeme.unplaced (lexeme position afterOperand c cs) =
      placeless Lexeme.unplaced (lexeme position' afterOperand c cs) := by
  rw [lexeme, lexeme]
  split
  · rfl
  · split
    · exact placeless_numberLexeme false position position' _ _ (c :: cs) _
    · split
      · exact placeless_map_more _ (placeless_numberLexeme true position position' _ _ cs _)
      · exact placeless_markLexeme position position' c

end

/-! ## The whole text -/

theorem placeless_map_append (tokens : List Token) (result : Except Fault (List Token)) :
    placeless (List.map unplaced) (result.map (tokens ++ ·)) =
      (placeless (List.map unplaced) result).map (tokens.map unplaced ++ ·) := by
  cases result with
  | error fault => rfl
  | ok later => exact congrArg Except.ok List.map_append

/-- A text has the same tokens and the same faults wherever it stands, apart from their places. -/
theorem placeless_scan (position position' : Nat) (afterOperand : Bool) (cs : List Char) :
    placeless (List.map unplaced) (scan position afterOperand cs) =
      placeless (List.map unplaced) (scan position' afterOperand cs) := by
  induction position, afterOperand, cs using scan.induct generalizing position' with
  | case1 position afterOperand => rw [scan_nil, scan_nil]
  | case2 position afterOperand c cs ih =>
    have hlexeme := placeless_lexeme position position' cs afterOperand c
    rw [scan_cons, scan_cons]
    cases hfirst : lexeme position afterOperand c cs with
    | error fault =>
      rw [hfirst] at hlexeme
      cases hfirst' : lexeme position' afterOperand c cs with
      | error fault' =>
        rw [hfirst'] at hlexeme
        exact congrArg Except.error (Except.error.inj hlexeme)
      | ok first' =>
        rw [hfirst'] at hlexeme
        cases hlexeme
    | ok first =>
      rw [hfirst] at hlexeme
      cases hfirst' : lexeme position' afterOperand c cs with
      | error fault' =>
        rw [hfirst'] at hlexeme
        cases hlexeme
      | ok first' =>
        rw [hfirst'] at hlexeme
        obtain ⟨htokens, hmore⟩ := Lexeme.mk.inj (Except.ok.inj hlexeme)
        have hends : endsOperand afterOperand first'.tokens =
            endsOperand afterOperand first.tokens := by
          rw [← endsOperand_map_unplaced, ← htokens, endsOperand_map_unplaced]
        simp only [Except.bind, placeless_map_append, ← htokens, ← hmore, hends]
        rw [ih first (position' + 1 + first.more)]

/-- Leading blanks only move what stands behind them. -/
theorem exists_scan_dropWhile (position : Nat) (afterOperand : Bool) (cs : List Char) :
    ∃ position', scan position afterOperand (plainMarks cs) =
      scan position' afterOperand (plainMarks (cs.dropWhile isBlank)) := by
  induction cs generalizing position with
  | nil => exact ⟨position, rfl⟩
  | cons c cs ih =>
    by_cases hc : isBlank c = true
    · obtain ⟨position', hscan⟩ := ih (position + 1)
      refine ⟨position', ?_⟩
      rw [List.dropWhile_cons_of_pos hc, ← hscan]
      exact (congrArg _ (plainMarks_append_blank hc [] cs)).trans (scan_blank hc position)
    · exact ⟨position, by rw [List.dropWhile_cons_of_neg hc]⟩

/-- A text as it was entered is read wherever it stands. -/
theorem placeless_scan_eq_ofText (position : Nat) (text : String) :
    placeless (List.map unplaced) (scan position false (plainMarks text.toList)) =
      placeless (List.map unplaced) (ofText text) := by
  obtain ⟨position', hmoved⟩ := exists_scan_dropWhile position false text.toList
  rw [hmoved, ofText_eq_scan]
  exact placeless_scan position' 0 false _

theorem placeless_eq_ok_iff {result : Except Fault (List Token)} {tokens : List Token} :
    placeless (List.map unplaced) result = .ok tokens ↔
      ∃ read, result = .ok read ∧ read.map unplaced = tokens := by
  cases result with
  | error fault => exact iff_of_false (by simp) (by simp)
  | ok read =>
    refine ⟨fun h => ⟨read, rfl, Except.ok.inj h⟩, ?_⟩
    rintro ⟨read', hread, rfl⟩
    rw [Except.ok.inj hread]
    rfl

theorem placeless_eq_error_iff {result : Except Fault (List Token)} {cause : Cause} :
    placeless (List.map unplaced) result = .error cause ↔
      ∃ position, result = .error ⟨cause, position⟩ := by
  cases result with
  | error fault =>
    refine ⟨fun h => ⟨fault.position, ?_⟩, ?_⟩
    · rw [← Except.error.inj h]
    · rintro ⟨position, hfault⟩
      rw [Except.error.inj hfault]
      rfl
  | ok read => exact iff_of_false (by simp) (by simp)

/-- The tokens of a text are read wherever it stands. -/
theorem exists_scan_of_ofText {text : String} {tokens : List Token}
    (h : ofText text = .ok tokens) (position : Nat) :
    ∃ moved : List Token, scan position false (plainMarks text.toList) = .ok moved ∧
      moved.map unplaced = tokens.map unplaced := by
  rw [← placeless_eq_ok_iff, placeless_scan_eq_ofText, h]
  rfl

/-- An operator without anything right behind it is never a sign. -/
theorem scan_operator (position : Nat) (afterOperand : Bool) (op : Operator) :
    scan position afterOperand [op.symbol] = .ok [.operator op position] := by
  have hblank : isBlank op.symbol = false := by cases op <;> rfl
  have hnumber : startsNumber [op.symbol] = false := by cases op <;> rfl
  have hlexeme : lexeme position afterOperand op.symbol [] =
      .ok ⟨[.operator op position], 0⟩ := by
    rw [lexeme, if_neg (by rw [hblank]; decide), dif_neg (by rw [hnumber]; decide),
      dif_neg (fun hminus => absurd hminus.2.2 Bool.false_ne_true), markLexeme]
    simp only [Operator.ofSymbol?_symbol]
  rw [scan_cons, hlexeme]
  show (scan _ _ []).map _ = _
  rw [scan_nil]
  rfl

/-- Between two texts, an operator with spaces around it adds its token, and moves those of the
second text. -/
theorem exists_ofText_append_operator {front back : String} {tokens behind : List Token}
    (hfront : ofText front = .ok tokens) (hne : tokens ≠ []) (hback : ofText back = .ok behind)
    (op : Operator) :
    ∃ (position : Nat) (moved : List Token),
      ofText (front ++ " " ++ String.ofList [op.symbol] ++ " " ++ back) =
        .ok (tokens ++ .operator op position :: moved) ∧
          moved.map unplaced = behind.map unplaced := by
  have hspace : isBlank ' ' = true := rfl
  have hcharacter : ∃ c ∈ front.toList, isBlank c = false :=
    exists_isBlank_eq_false fun hnone => hne (Except.ok.inj (hfront.symm.trans hnone))
  have hmark : plainMarks [op.symbol] = [op.symbol] := by cases op <;> rfl
  have htext : (String.ofList [op.symbol] ++ " " ++ back).toList =
      [op.symbol] ++ ' ' :: back.toList := by
    rw [String.toList_append, String.toList_append, String.toList_ofList, List.append_assoc]
    rfl
  have hwhole := ofText_append hcharacter (String.ofList [op.symbol] ++ " " ++ back)
  generalize (plainMarks (front.toList.dropWhile isBlank)).length + 1 = position at hwhole
  obtain ⟨moved, hmoved, hplace⟩ := exists_scan_of_ofText hback (position + 1 + 1)
  refine ⟨position, moved, ?_, hplace⟩
  have hassoc : front ++ " " ++ String.ofList [op.symbol] ++ " " ++ back =
      front ++ " " ++ (String.ofList [op.symbol] ++ " " ++ back) := by
    simp only [String.append_assoc]
  rw [hassoc, hwhole, hfront, htext, plainMarks_append_blank hspace, hmark]
  simp only [Except.bind, scan_append_blank hspace, scan_operator]
  show ((scan (position + 1 + 1) false _).map _).map _ = _
  rw [hmoved]
  rfl

end Token

end TapeMeasure
