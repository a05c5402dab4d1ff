import TapeMeasure.Proofs.Except
import TapeMeasure.Proofs.Token.Numeral
import TapeMeasure.Token.Spelling

/-!
# What one step of the scan takes

One step of the scan takes a blank, the characters of one token, or those of a number and its feet
mark, and leaves the rest of the text as it is.  A numeral reaches as far as it can, so no digit
follows it.

* `Numeral.exists_text_ofFront_append`: the numeral at the front of a text is cut off in front of
  something other than a digit.
* `Opens`: a front of a text, with the tokens that it spells.
* `opens_of_fractionLexeme`, `opens_of_numberLexeme`, `opens_of_markLexeme`: the fronts that the
  parts of the scan take; `opens_of_lexeme` is the whole step.
-/

namespace TapeMeasure

open Text

namespace Token

/-! ## Cutting off digits -/

theorem noDigitFirst_dropWhile (cs : List Char) : NoDigitFirst (cs.dropWhile Char.isDigit) := by
  intro c hc
  have hnot := List.head?_dropWhile_not Char.isDigit cs
  rwa [Option.mem_def.mp hc] at hnot

theorem isDigit_of_mem_takeWhile {cs : List Char} {c : Char}
    (h : c ∈ cs.takeWhile Char.isDigit) : c.isDigit = true :=
  List.all_eq_true.mp List.all_takeWhile c h

theorem noDigitFirst_cons {c : Char} (hc : c.isDigit = false) (cs : List Char) :
    NoDigitFirst (c :: cs) := by
  intro d hd
  rwa [← Option.some.inj hd]

theorem drop_of_append_eq {xs ys cs : List Char} (h : xs ++ ys = cs) : cs.drop xs.length = ys := by
  rw [← h, List.drop_left]

namespace Numeral

theorem ofFront_of_point {cs rest : List Char} (h : cs.dropWhile Char.isDigit = '.' :: rest) :
    ofFront cs = ⟨cs.takeWhile Char.isDigit, some (rest.takeWhile Char.isDigit)⟩ := by
  simp only [ofFront, h]

theorem ofFront_of_head?_ne {cs : List Char}
    (h : (cs.dropWhile Char.isDigit).head? ≠ some '.') :
    ofFront cs = ⟨cs.takeWhile Char.isDigit, none⟩ := by
  rw [ofFront]
  split
  · rename_i hpoint
    rw [hpoint] at h
    exact absurd rfl h
  · rfl

/-- The numeral at the front is what the text starts with, up to something other than a digit. -/
theorem exists_text_ofFront_append (cs : List Char) :
    ∃ rest, (ofFront cs).text ++ rest = cs ∧ NoDigitFirst rest := by
  have hcut : cs.takeWhile Char.isDigit ++ cs.dropWhile Char.isDigit = cs :=
    List.takeWhile_append_dropWhile
  by_cases hpoint : (cs.dropWhile Char.isDigit).head? = some '.'
  · obtain ⟨rest, hrest⟩ := List.head?_eq_some_iff.mp hpoint
    refine ⟨rest.dropWhile Char.isDigit, ?_, noDigitFirst_dropWhile rest⟩
    rw [ofFront_of_point hrest, text, List.append_assoc, List.cons_append,
      List.takeWhile_append_dropWhile, ← hrest, hcut]
  · exact ⟨cs.dropWhile Char.isDigit, by rw [ofFront_of_head?_ne hpoint]; exact hcut,
      noDigitFirst_dropWhile cs⟩

theorem numberForm_text {n : Numeral} (hn : n.Proper) : NumberForm n.text := by
  obtain ⟨whole, _ | places⟩ := n
  · refine NumberForm.whole hn.whole_digits ?_
    have hne := hn.nonempty
    rwa [placeDigits, Option.getD_none, List.append_nil] at hne
  · exact NumberForm.pointed hn.whole_digits hn.place_digits hn.nonempty

/-- A short numeral spells its number. -/
theorem spells_literal {n : Numeral} (hn : n.Proper) (hshort : n.digitCount ≤ maxLiteralDigits)
    (negative : Bool) (position : Nat) :
    Spells (signText negative ++ n.text) (.number (n.literal hn) negative position) := by
  have htext : (n.literal hn).text.toList = n.text := String.toList_ofList
  rw [← htext]
  refine Spells.number negative position ?_ ?_
  · rw [htext]
    exact numberForm_text hn
  · rw [htext, countP_isDigit_text hn]
    exact hshort

/-- A short numeral without a point is a whole number. -/
theorem wholeForm_of_places {n : Numeral} (hn : n.Proper) (hplaces : n.places = none)
    (hshort : n.digitCount ≤ maxLiteralDigits) : n.text = n.whole ∧ WholeForm n.whole := by
  have hdigits : n.placeDigits = [] := by rw [placeDigits, hplaces, Option.getD_none]
  have hne := hn.nonempty
  rw [hdigits, List.append_nil] at hne
  rw [digitCount, hdigits, List.length_nil, Nat.add_zero] at hshort
  exact ⟨by rw [text, hplaces], hn.whole_digits, hne, hshort⟩

end Numeral

/-! ## Fronts of a text -/

/-- A front of a text, in front of `rest`, is a blank, a token, or a number with its feet mark. -/
inductive Opens (rest : List Char) : Nat → List Char → List Token → Prop
  | blank {c : Char} (position : Nat) (blank : isBlank c = true) : Opens rest position [c] []
  | token {spelling : List Char} {token : Token} (spells : Spells spelling token)
      (separate : token.isFeetMark = false) (closed : token.isNumeric = true → NoDigitFirst rest) :
    Opens rest token.position spelling [token]
  | feet {spelling : List Char} {literal : Literal} {negative : Bool} {position : Nat}
      (spells : Spells spelling (.number literal negative position)) :
    Opens rest position (spelling ++ ['\''])
      [.number literal negative position, .feetMark (position + spelling.length)]

/-- A front is laid out before anything that is laid out. -/
theorem Opens.laidOut {rest front : List Char} {position : Nat} {tokens tokens' : List Token}
    (h : Opens rest position front tokens)
    (hrest : LaidOut (position + front.length) rest tokens') :
    LaidOut position (front ++ rest) (tokens ++ tokens') := by
  cases h with
  | blank position blank => exact LaidOut.blank blank hrest
  | token spells separate closed => exact LaidOut.token spells separate closed hrest
  | feet spells =>
    rw [List.length_append, List.length_singleton, ← Nat.add_assoc] at hrest
    rw [List.append_assoc]
    exact LaidOut.feet spells hrest

/-! ## The steps of the scan -/

section

variable {negative : Bool} {start position : Nat} {cs : List Char} {first : Lexeme}

theorem opens_of_fractionLexeme {slash : Nat} {above : List Char} (habove : WholeForm above)
    (h : fractionLexeme negative start slash (natOfDigits above) cs = .ok first) :
    ∃ below rest, cs = below ++ rest ∧ first.more = below.length ∧
      Opens rest start (signText negative ++ above ++ '/' :: below) first.tokens := by
  rw [fractionLexeme] at h
  simp only at h
  split at h
  · cases h
  · rename_i hne
    split at h
    · cases h
    · rename_i hshort
      split at h
      · cases h
      · split at h
        · cases h
        · cases h
          refine ⟨cs.takeWhile Char.isDigit, cs.dropWhile Char.isDigit,
            List.takeWhile_append_dropWhile.symm, rfl, ?_⟩
          have hbelow : WholeForm (cs.takeWhile Char.isDigit) :=
            ⟨fun c hc => isDigit_of_mem_takeWhile hc, hne, not_lt.mp hshort⟩
          exact Opens.token (Spells.fraction negative start habove hbelow rfl rfl) rfl
            fun _ => noDigitFirst_dropWhile cs

theorem opens_of_numberLexeme (negative : Bool) {hstart : startsNumber cs = true}
    (h : numberLexeme negative start (start + negative.toNat) cs hstart = .ok first) :
    ∃ front rest, signText negative ++ cs = front ++ rest ∧
      front.length = first.more + 1 + negative.toNat ∧ Opens rest start front first.tokens := by
  have hsign : (signText negative).length = negative.toNat := by cases negative <;> rfl
  obtain ⟨rest, hcs, hrest⟩ := Numeral.exists_text_ofFront_append cs
  have hdrop : cs.drop (Numeral.ofFront cs).text.length = rest := drop_of_append_eq hcs
  rw [numberLexeme] at h
  simp only [hdrop] at h
  generalize Numeral.proper_ofFront hstart = hproper at h
  generalize Numeral.ofFront cs = n at *
  split at h
  · cases h
  · rename_i hshort
    have hspells := Numeral.spells_literal hproper (not_lt.mp hshort) negative start
    split at h
    · -- a slash: the numeral is the numerator
      split at h
      · cases h
      · rename_i rest' hplaces
        obtain ⟨denominator, hdenominator, rfl⟩ := map_eq_ok_iff.mp h
        obtain ⟨htext, hform⟩ := Numeral.wholeForm_of_places hproper
          (Option.not_isSome_iff_eq_none.mp hplaces) (not_lt.mp hshort)
        obtain ⟨below, rest'', rfl, hmore, hopens⟩ := opens_of_fractionLexeme hform hdenominator
        refine ⟨_, rest'', ?_, ?_, hopens⟩
        · rw [← hcs, htext, List.append_assoc, List.append_assoc]
          rfl
        · simp only [List.length_append, List.length_cons, hsign, hmore, htext]
          omega
    · -- a feet mark
      rename_i rest'
      cases h
      refine ⟨signText negative ++ n.text ++ ['\''], rest', ?_, ?_, ?_⟩
      · rw [← hcs, List.append_assoc, List.append_assoc]
        rfl
      · simp only [List.length_append, List.length_singleton, hsign]
        omega
      · rw [Nat.add_assoc, ← hsign, ← List.length_append]
        exact Opens.feet hspells
    · cases h
      have hwidth : 0 < n.text.length :=
        List.length_pos_iff.mpr (Numeral.numberForm_text hproper).ne_nil
      refine ⟨signText negative ++ n.text, rest, ?_, ?_, ?_⟩
      · rw [← hcs, List.append_assoc]
      · rw [List.length_append, hsign, Nat.sub_add_cancel hwidth, Nat.add_comm]
      · exact Opens.token hspells rfl fun _ => hrest

theorem opens_of_markLexeme {c : Char} (h : markLexeme position c = .ok first) :
    first.more = 0 ∧ Opens cs position [c] first.tokens := by
  rw [markLexeme] at h
  split at h
  · rename_i op hop
    cases h
    refine ⟨rfl, ?_⟩
    rw [← Operator.symbol_of_ofSymbol? hop]
    exact Opens.token (Spells.operator op position) rfl (fun hnumeric => by cases hnumeric)
  · split at h
    · rename_i hc
      cases h
      exact ⟨rfl,
        hc ▸ Opens.token (Spells.percent position) rfl (fun hnumeric => by cases hnumeric)⟩
    · split at h
      · rename_i hc
        cases h
        exact ⟨rfl,
          hc ▸ Opens.token (Spells.inchMark position) rfl (fun hnumeric => by cases hnumeric)⟩
      · split at h <;> cases h

/-- One step of the scan takes a front of the text, and says how long it is. -/
theorem opens_of_lexeme {afterOperand : Bool} {c : Char}
    (h : lexeme position afterOperand c cs = .ok first) :
    ∃ front rest, c :: cs = front ++ rest ∧ front.length = first.more + 1 ∧
      Opens rest position front first.tokens := by
  rw [lexeme] at h
  split at h
  · rename_i hblank
    cases h
    exact ⟨[c], cs, rfl, rfl, Opens.blank position hblank⟩
  · split at h
    · obtain ⟨front, rest, hcut, hlength, hopens⟩ := opens_of_numberLexeme false h
      exact ⟨front, rest, hcut, hlength, hopens⟩
    · split at h
      · rename_i hminus
        obtain ⟨number, hnumber, rfl⟩ := map_eq_ok_iff.mp h
        obtain ⟨front, rest, hcut, hlength, hopens⟩ := opens_of_numberLexeme true hnumber
        refine ⟨front, rest, ?_, hlength, hopens⟩
        rw [hminus.1]
        exact hcut
      · obtain ⟨hmore, hopens⟩ := opens_of_markLexeme h
        exact ⟨[c], cs, rfl, by rw [hmore]; rfl, hopens⟩

end

end Token

end TapeMeasure
