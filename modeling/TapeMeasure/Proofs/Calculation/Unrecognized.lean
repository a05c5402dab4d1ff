import TapeMeasure.Proofs.Calculation.Causes
import TapeMeasure.Proofs.Calculation.Marks
import TapeMeasure.Proofs.Token.Occurrence

/-!
# Where an unrecognized character stands

The scan stops at the first character that belongs to nothing, and reports its place in the text
that is scanned.  That text has no leading blanks, and one inch mark for two plain single quotes, so
in the text as it was entered the character may stand further behind.

* `Stray`: the characters that are no blanks, digits or marks.  A point is one of them, though it
  may belong to a number.
* `stray_of_lexeme`, `exists_append_of_scan`: where the scan stops.
* `exists_append_of_plainMarks`: a character of the text with plain marks in the text that was
  entered.
* `length_plainMarks_dropWhile_eq_iff`: when nothing before the character was taken out.
* `unrecognized_position`: the reported place, and when the character stands there.
-/

namespace TapeMeasure

open Text

namespace Token

variable {c : Char} {cs : List Char} {position p : Nat} {afterOperand : Bool}

/-! ## The character that stops the scan -/

/-- A character that is no blank, no digit and no mark. -/
structure Stray (c : Char) : Prop where
  isBlank_eq_false : isBlank c = false
  isDigit_eq_false : c.isDigit = false
  ofSymbol?_eq_none : Operator.ofSymbol? c = none
  ne_percent : c ≠ '%'
  ne_inch : c ≠ '"'
  ne_foot : c ≠ '\''

theorem isDigit_eq_false_of_startsNumber (h : startsNumber (c :: cs) = false) :
    c.isDigit = false := by
  by_cases hpoint : c = '.'
  · rw [hpoint]
    rfl
  · rwa [startsNumber.eq_2 _ _ (fun _ _ h _ => hpoint h)] at h

theorem fractionLexeme_ne_unrecognized (negative : Bool) (start slash numerator : Nat) :
    fractionLexeme negative start slash numerator cs ≠ .error ⟨.unrecognized c, p⟩ := by
  intro h
  rw [fractionLexeme] at h
  simp only at h
  split_ifs at h <;> cases h

theorem numberLexeme_ne_unrecognized (negative : Bool) (start : Nat)
    (hstart : startsNumber cs = true) :
    numberLexeme negative start position cs hstart ≠ .error ⟨.unrecognized c, p⟩ := by
  intro h
  rw [numberLexeme] at h
  simp only at h
  split at h
  · cases h
  · split at h
    · split at h
      · cases h
      · exact fractionLexeme_ne_unrecognized _ _ _ _ (map_eq_error_iff.mp h)
    · cases h
    · cases h

theorem stray_of_markLexeme {d : Char} (hblank : isBlank d = false) (hdigit : d.isDigit = false)
    (h : markLexeme position d = .error ⟨.unrecognized c, p⟩) :
    d = c ∧ position = p ∧ Stray c := by
  rw [markLexeme] at h
  split at h
  · cases h
  · rename_i hsymbol
    split_ifs at h with hpercent hinch hfoot <;> cases h
    exact ⟨rfl, rfl, hblank, hdigit, hsymbol, hpercent, hinch, hfoot⟩

/-- A step of the scan stops at the character it starts with. -/
theorem stray_of_lexeme {d : Char}
    (h : lexeme position afterOperand d cs = .error ⟨.unrecognized c, p⟩) :
    d = c ∧ position = p ∧ Stray c := by
  rw [lexeme] at h
  split at h
  · cases h
  · rename_i hblank
    split at h
    · exact absurd h (numberLexeme_ne_unrecognized _ _ _)
    · rename_i hnumber
      split at h
      · exact absurd (map_eq_error_iff.mp h) (numberLexeme_ne_unrecognized _ _ _)
      · have hdigit := isDigit_eq_false_of_startsNumber (Bool.eq_false_of_not_eq_true hnumber)
        exact stray_of_markLexeme (Bool.eq_false_of_not_eq_true hblank) hdigit h

theorem Stray.notMem_signText (h : Stray c) (negative : Bool) : c ∉ signText negative := by
  refine Token.notMem_signText ?_ negative
  rintro rfl
  cases h.ofSymbol?_eq_none

/-- No token is written with it. -/
theorem Stray.notMem_marks (h : Stray c) (token : Token) : c ∉ token.marks := by
  cases token with
  | number literal negative position => exact h.notMem_signText negative
  | fraction ratio negative position =>
    refine fun hmem => (List.mem_append.mp hmem).elim (h.notMem_signText negative) fun hslash => ?_
    rw [List.mem_singleton.mp hslash] at h
    cases h.ofSymbol?_eq_none
  | operator op position =>
    intro hmem
    have hsymbol := h.ofSymbol?_eq_none
    rw [List.mem_singleton.mp hmem, Operator.ofSymbol?_symbol] at hsymbol
    cases hsymbol
  | feetMark position => exact fun hmem => h.ne_foot (List.mem_singleton.mp hmem)
  | inchMark position => exact fun hmem => h.ne_inch (List.mem_singleton.mp hmem)
  | percent position => exact fun hmem => h.ne_percent (List.mem_singleton.mp hmem)

/-- What the scan has taken does not have the character, unless it is a point. -/
theorem Opens.notMem {rest front : List Char} {tokens : List Token}
    (h : Opens rest position front tokens) (hstray : Stray c) (hpoint : c ≠ '.') : c ∉ front := by
  have hnumeric : Text.isNumeric c = false := by
    rw [Text.isNumeric, hstray.isDigit_eq_false, Bool.false_or, beq_eq_false_iff_ne]
    exact hpoint
  cases h with
  | blank position hblank =>
    intro hmem
    exact ne_of_isBlank_eq_false hblank hstray.isBlank_eq_false (List.mem_singleton.mp hmem)
  | token spells separate closed =>
    rw [spells.mem_iff hnumeric]
    exact hstray.notMem_marks _
  | feet spells =>
    rw [List.mem_append, spells.mem_iff hnumeric, List.mem_singleton, not_or]
    exact ⟨hstray.notMem_marks _, hstray.ne_foot⟩

/-- The scan stops behind what it has taken. -/
theorem exists_append_of_scan (h : scan position afterOperand cs = .error ⟨.unrecognized c, p⟩) :
    Stray c ∧ ∃ front back, cs = front ++ c :: back ∧ p = position + front.length ∧
      (c ≠ '.' → c ∉ front) := by
  induction position, afterOperand, cs using scan.induct with
  | case1 position afterOperand =>
    rw [scan_nil] at h
    cases h
  | case2 position afterOperand d cs ih =>
    rw [scan_cons] at h
    rcases bind_eq_error_iff.mp h with hstop | ⟨first, hfirst, hlater⟩
    · obtain ⟨rfl, rfl, hstray⟩ := stray_of_lexeme hstop
      exact ⟨hstray, [], cs, rfl, rfl, fun _ => List.not_mem_nil⟩
    · obtain ⟨taken, rest, hcut, hlength, hopens⟩ := opens_of_lexeme hfirst
      have hdrop : cs.drop first.more = rest := by
        have hleft := drop_of_append_eq hcut.symm
        rwa [hlength, List.drop_succ_cons] at hleft
      obtain ⟨hstray, front, back, hrest, hplace, hfront⟩ := ih first (map_eq_error_iff.mp hlater)
      refine ⟨hstray, taken ++ front, back, ?_, ?_, fun hpoint hmem => ?_⟩
      · rw [hcut, ← hdrop, hrest, List.append_assoc]
      · rw [hplace, List.length_append, hlength]
        omega
      · exact (List.mem_append.mp hmem).elim (hopens.notMem hstray hpoint) (hfront hpoint)

/-! ## The text as it was entered -/

/-- The text with plain marks has no others. -/
theorem plainMark_of_mem_plainMarks (h : c ∈ plainMarks cs) : plainMark c = c := by
  fun_induction plainMarks cs with
  | case1 => cases h
  | case2 cs ih =>
    rcases List.mem_cons.mp h with rfl | hcs
    · rfl
    · exact ih hcs
  | case3 d cs _ ih =>
    rcases List.mem_cons.mp h with rfl | hcs
    · exact plainMark_plainMark d
    · exact ih hcs

/-- A character that is no mark stays. -/
theorem mem_plainMarks_of_mem (hplain : plainMark c = c) (hfoot : c ≠ '\'') (h : c ∈ cs) :
    c ∈ plainMarks cs := by
  fun_induction plainMarks cs with
  | case1 => cases h
  | case2 cs ih =>
    exact List.mem_cons_of_mem _
      (ih (List.mem_of_ne_of_mem hfoot (List.mem_of_ne_of_mem hfoot h)))
  | case3 d cs _ ih =>
    rcases List.mem_cons.mp h with rfl | hcs
    · exact List.mem_cons.mpr (Or.inl hplain.symm)
    · exact List.mem_cons_of_mem _ (ih hcs)

theorem eq_of_plainMark_eq {d : Char} (hinch : c ≠ '"') (hfoot : c ≠ '\'')
    (h : plainMark d = c) : d = c := by
  rw [plainMark] at h
  split at h
  · exact absurd h.symm hinch
  · split at h
    · exact absurd h.symm hfoot
    · exact h

/-- A character that is no mark cuts the text as it cuts the one with plain marks. -/
theorem exists_append_of_plainMarks (hinch : c ≠ '"') (hfoot : c ≠ '\'') {front back : List Char}
    (h : plainMarks cs = front ++ c :: back) :
    ∃ front' back', cs = front' ++ c :: back' ∧ plainMarks front' = front := by
  fun_induction plainMarks cs generalizing front with
  | case1 => simp at h
  | case2 cs ih =>
    obtain _ | ⟨x, front⟩ := front
    · exact absurd (List.cons.inj h).1.symm hinch
    · obtain ⟨rfl, hcs⟩ := List.cons.inj h
      obtain ⟨front', back', rfl, rfl⟩ := ih hcs
      exact ⟨'\'' :: '\'' :: front', back', rfl, rfl⟩
  | case3 d cs hpair ih =>
    obtain _ | ⟨x, front⟩ := front
    · obtain rfl := eq_of_plainMark_eq hinch hfoot (List.cons.inj h).1
      exact ⟨[], cs, rfl, rfl⟩
    · obtain ⟨rfl, hcs⟩ := List.cons.inj h
      obtain ⟨front', back', rfl, rfl⟩ := ih hcs
      refine ⟨d :: front', back', rfl, plainMarks_cons ?_⟩
      rintro ⟨ds, rfl, rfl⟩
      exact hpair _ rfl rfl

/-- The plain marks are as many unless two plain single quotes become one mark. -/
theorem length_plainMarks_eq_iff (cs : List Char) :
    (plainMarks cs).length = cs.length ↔ ¬['\'', '\''] <:+: cs := by
  fun_induction plainMarks cs with
  | case1 => simp
  | case2 cs ih =>
    have hle := length_plainMarks_le cs
    refine iff_of_false ?_ (not_not_intro ⟨[], cs, rfl⟩)
    simp only [List.length_cons]
    omega
  | case3 d cs hpair ih =>
    have hfront : ¬['\'', '\''] <+: d :: cs := by
      rintro ⟨ds, hds⟩
      obtain ⟨hd, hcs⟩ := List.cons.inj hds
      exact hpair ds hd.symm hcs.symm
    rw [List.length_cons, List.length_cons, Nat.add_right_cancel_iff, ih, List.infix_cons_iff,
      or_iff_right hfront]

/-- Nothing is taken out of a text that starts without a blank and has no two plain single quotes
side by side. -/
theorem length_plainMarks_dropWhile_eq_iff (cs : List Char) :
    (plainMarks (cs.dropWhile isBlank)).length = cs.length ↔
      (∀ b ∈ cs.head?, isBlank b = false) ∧ ¬['\'', '\''] <:+: cs := by
  constructor
  · intro h
    have hmarks := length_plainMarks_le (cs.dropWhile isBlank)
    have hdrop : (cs.dropWhile isBlank).length = cs.length :=
      le_antisymm (List.dropWhile_suffix _).length_le (h ▸ hmarks)
    have hself : cs.dropWhile isBlank = cs := (List.dropWhile_suffix _).eq_of_length hdrop
    rw [hself] at h
    refine ⟨fun b hb => ?_, (length_plainMarks_eq_iff cs).mp h⟩
    have hhead := List.head?_dropWhile_not isBlank cs
    rw [hself, Option.mem_def.mp hb] at hhead
    exact hhead
  · rintro ⟨hhead, hpair⟩
    rw [dropWhile_isBlank_eq_self hhead]
    exact (length_plainMarks_eq_iff cs).mpr hpair

/-- The scan of an entered text stops at a character of it, which it reports further in front by
what was taken out before it. -/
theorem exists_append_of_ofText {text : String} (h : ofText text = .error ⟨.unrecognized c, p⟩) :
    Stray c ∧ ∃ front back, text.toList = front ++ c :: back ∧
      p = (plainMarks (front.dropWhile isBlank)).length ∧ (c ≠ '.' → c ∉ front) := by
  rw [ofText_eq_scan] at h
  obtain ⟨hstray, taken, rest, hplain, hplace, htaken⟩ := exists_append_of_scan h
  obtain ⟨front, back, hcut, rfl⟩ :=
    exists_append_of_plainMarks hstray.ne_inch hstray.ne_foot hplain
  have hlead : ∀ b ∈ text.toList.takeWhile isBlank, isBlank b = true := fun b hb =>
    List.mem_takeWhile_imp hb
  have hhead : ∀ b ∈ front.head?, isBlank b = false := by
    intro b hb
    have hnot := List.head?_dropWhile_not isBlank text.toList
    rwa [hcut, List.head?_append, Option.mem_def.mp hb] at hnot
  have hdrop : (text.toList.takeWhile isBlank ++ front).dropWhile isBlank = front := by
    rw [List.dropWhile_append_of_pos hlead, dropWhile_isBlank_eq_self hhead]
  refine ⟨hstray, text.toList.takeWhile isBlank ++ front, back, ?_, ?_, fun hpoint hmem => ?_⟩
  · rw [List.append_assoc, ← hcut, List.takeWhile_append_dropWhile]
  · rw [hdrop, hplace, Nat.zero_add]
  · have hself : plainMark c = c :=
      plainMark_of_mem_plainMarks (hplain ▸ List.mem_append_right _ List.mem_cons_self)
    rcases List.mem_append.mp hmem with hmem | hmem
    · exact ne_of_isBlank_eq_false (hlead c hmem) hstray.isBlank_eq_false rfl
    · exact htaken hpoint (mem_plainMarks_of_mem hself hstray.ne_foot hmem)

/-- **An unrecognized character is reported at its place in the text that is scanned.** The log has
that place beside the text as it was entered.  The character stands there if the text does not start
with a blank and no two plain single quotes stand side by side before the character.  Otherwise
something before it stands there, which is another character unless both are points. -/
theorem unrecognized_position {text : String}
    (h : ofText text = .error ⟨.unrecognized c, p⟩) :
    (∃ event, (calculate text).events = [event] ∧
      Reports event "calculation_failed" "TOKENIZE_ERROR" (some p) ∧
      event.toJson.member? "expression" = some (.string text)) ∧
    ∃ front back, text.toList = front ++ c :: back ∧
      p = (plainMarks (front.dropWhile isBlank)).length ∧
      (text.toList[p]? = some c ↔
        ((∀ b ∈ front.head?, isBlank b = false) ∧ ¬['\'', '\''] <:+: front) ∨
          (c = '.' ∧ front[p]? = some '.')) := by
  refine ⟨⟨_, (events_of_failure (calculate_of_error h)).2, reports_failed _,
    member?_expression_failed rfl⟩, ?_⟩
  obtain ⟨hstray, front, back, htext, hplace, hfront⟩ := exists_append_of_ofText h
  refine ⟨front, back, htext, hplace, ?_⟩
  rw [← length_plainMarks_dropWhile_eq_iff, ← hplace, htext]
  have hle : p ≤ front.length := by
    rw [hplace]
    exact (length_plainMarks_le _).trans (List.dropWhile_suffix _).length_le
  rcases hle.eq_or_lt with heq | hlt
  · -- the character itself
    refine iff_of_true ?_ (Or.inl heq)
    rw [heq, List.getElem?_append_right le_rfl, Nat.sub_self]
    rfl
  · -- something before it
    rw [List.getElem?_append_left hlt, or_iff_right hlt.ne]
    constructor
    · intro hc
      by_cases hpoint : c = '.'
      · exact ⟨hpoint, hpoint ▸ hc⟩
      · exact absurd (List.mem_of_getElem? hc) (hfront hpoint)
    · rintro ⟨rfl, hc⟩
      exact hc

/-- Behind a number and a space nothing was taken out. -/
theorem unrecognized_position_fiveAmpersand :
    ofText "5 & 3" = .error ⟨.unrecognized '&', 2⟩ ∧
      (∃ event, (calculate "5 & 3").events = [event] ∧
        Reports event "calculation_failed" "TOKENIZE_ERROR" (some 2)) ∧
      ∃ front back, "5 & 3".toList = front ++ '&' :: back ∧ front.length = 2 ∧
        (∀ b ∈ front.head?, isBlank b = false) ∧ ¬['\'', '\''] <:+: front := by
  have hfault : ofText "5 & 3" = .error ⟨.unrecognized '&', 2⟩ := by decide +kernel
  obtain ⟨⟨event, hevents, hreports, -⟩, front, back, htext, hplace, hiff⟩ :=
    unrecognized_position hfault
  have hstands : "5 & 3".toList[2]? = some '&' := by decide +kernel
  have hkept := (hiff.mp hstands).resolve_right fun hpoint => absurd hpoint.1 (by decide)
  refine ⟨hfault, ⟨event, hevents, hreports⟩, front, back, htext, ?_, hkept⟩
  rw [hplace]
  exact ((length_plainMarks_dropWhile_eq_iff front).mpr hkept).symm

/-- A leading space, and two single quotes that are one mark, stand at the reported places. -/
theorem unrecognized_elsewhere :
    (ofText " &" = .error ⟨.unrecognized '&', 0⟩ ∧ " &".toList[0]? = some ' ') ∧
      ofText "5''&" = .error ⟨.unrecognized '&', 2⟩ ∧ "5''&".toList[2]? = some '\'' := by
  decide +kernel

end Token

end TapeMeasure
