import TapeMeasure.Proofs.Token.Place

/-!
# Texts with a space between them

The tokens of two texts with a space between them are those of the first and then those of the
second.  Only one thing is seen across the space: whether an operand stands before it, for then a
minus sign at the front of the second text is an operator and no sign of a number.

* `startsSigned`: whether a text starts with a minus sign right in front of a number.
* `scan_afterOperand`: in front of any other text it does not matter whether an operand stands.
* `isNegative_of_startsSigned`: the first token of a text that does start so.
* `placeless_ofText_append`: two texts with a space between them, with their tokens and faults.
* `ofText_append_space`: this, said for tokens and faults apart.
-/

namespace TapeMeasure

open Text

namespace Token

/-! ## Signs at the front of a text -/

/-- Whether a text starts, behind blanks, with a minus sign right in front of a number. -/
def startsSigned (cs : List Char) : Bool :=
  match cs.dropWhile isBlank with
  | '-' :: rest => startsNumber rest
  | _ => false

theorem startsSigned_blank {c : Char} (hc : isBlank c = true) (cs : List Char) :
    startsSigned (c :: cs) = startsSigned cs := by
  rw [startsSigned, startsSigned, List.dropWhile_cons_of_pos hc]

theorem startsSigned_minus (cs : List Char) : startsSigned ('-' :: cs) = startsNumber cs := rfl

/-- A text that starts with a sign does so right behind its leading blanks. -/
theorem startsSigned_eq_true_iff {cs : List Char} :
    startsSigned cs = true ↔
      ∃ rest, cs.dropWhile isBlank = '-' :: rest ∧ startsNumber rest = true := by
  rw [startsSigned]
  split
  · rename_i rest hcs
    refine ⟨fun h => ⟨rest, hcs, h⟩, ?_⟩
    rintro ⟨rest', hcs', h⟩
    rw [hcs] at hcs'
    rwa [(List.cons.inj hcs').2]
  · rename_i hne
    refine iff_of_false Bool.false_ne_true ?_
    rintro ⟨rest, hcs, -⟩
    exact hne rest hcs

/-- Without a sign, the first character is read alike behind an operand. -/
theorem lexeme_afterOperand {c : Char} {cs : List Char} (h : ¬(c = '-' ∧ startsNumber cs = true))
    (position : Nat) (afterOperand : Bool) :
    lexeme position afterOperand c cs = lexeme position false c cs := by
  rw [lexeme, lexeme]
  split
  · rfl
  · split
    · rfl
    · rw [dif_neg fun hminus => h ⟨hminus.1, hminus.2.2⟩,
        dif_neg fun hminus => h ⟨hminus.1, hminus.2.2⟩]

/-- What is not blank has a token. -/
theorem tokens_ne_nil_of_lexeme {position : Nat} {afterOperand : Bool} {c : Char} {cs : List Char}
    {first : Lexeme} (hc : isBlank c = false) (h : lexeme position afterOperand c cs = .ok first) :
    first.tokens ≠ [] := by
  obtain ⟨front, rest, hcut, -, hopens⟩ := opens_of_lexeme h
  generalize first.tokens = tokens at hopens
  cases hopens with
  | blank position blank =>
    rw [(List.cons.inj hcut).1, blank] at hc
    cases hc
  | token spells separate closed => exact List.cons_ne_nil _ _
  | feet spells => exact List.cons_ne_nil _ _

theorem endsOperand_of_ne_nil {tokens : List Token} (h : tokens ≠ []) (afterOperand : Bool) :
    endsOperand afterOperand tokens = endsOperand false tokens := by
  rw [endsOperand, endsOperand, List.getLast?_eq_some_getLast h]

/-- A text that does not start with a sign is read alike behind an operand. -/
theorem scan_afterOperand {cs : List Char} (h : startsSigned cs = false) (position : Nat)
    (afterOperand : Bool) : scan position afterOperand cs = scan position false cs := by
  induction cs generalizing position with
  | nil => rw [scan_nil, scan_nil]
  | cons c cs ih =>
    by_cases hc : isBlank c = true
    · rw [startsSigned_blank hc] at h
      rw [scan_blank hc, scan_blank hc]
      exact ih h (position + 1)
    · have hsign : ¬(c = '-' ∧ startsNumber cs = true) := by
        rintro ⟨rfl, hnumber⟩
        rw [startsSigned_minus, hnumber] at h
        cases h
      rw [scan_cons, scan_cons, lexeme_afterOperand hsign]
      cases hfirst : lexeme position false c cs with
      | error fault => rfl
      | ok first =>
        have hne := tokens_ne_nil_of_lexeme (Bool.eq_false_of_not_eq_true hc) hfirst
        simp only [Except.bind, endsOperand_of_ne_nil hne afterOperand]

/-! ## The first token behind a sign -/

section

variable {negative : Bool} {start position : Nat} {cs : List Char} {first : Lexeme}

theorem head?_fractionLexeme {slash numerator : Nat}
    (h : fractionLexeme negative start slash numerator cs = .ok first) :
    ∃ token ∈ first.tokens.head?, token.isNegative = negative := by
  rw [fractionLexeme] at h
  simp only at h
  split at h
  · cases h
  · split at h
    · cases h
    · split at h
      · cases h
      · split at h
        · cases h
        · cases h
          exact ⟨_, rfl, rfl⟩

/-- The first token of a number has its sign. -/
theorem head?_numberLexeme {hstart : startsNumber cs = true}
    (h : numberLexeme negative start position cs hstart = .ok first) :
    ∃ token ∈ first.tokens.head?, token.isNegative = negative := by
  rw [numberLexeme] at h
  simp only at h
  split at h
  · cases h
  · split at h
    · split at h
      · cases h
      · obtain ⟨denominator, hdenominator, rfl⟩ := map_eq_ok_iff.mp h
        have hhead := head?_fractionLexeme hdenominator
        exact hhead
    · cases h
      exact ⟨_, rfl, rfl⟩
    · cases h
      exact ⟨_, rfl, rfl⟩

end

/-- A text that starts with a sign has a negative first token where no operand stands before it. -/
theorem isNegative_of_startsSigned {cs : List Char} {tokens : List Token} {position : Nat}
    (hsign : startsSigned cs = true) (h : scan position false cs = .ok tokens) :
    ∃ token ∈ tokens.head?, token.isNegative = true := by
  induction cs generalizing position with
  | nil => cases hsign
  | cons c cs ih =>
    by_cases hc : isBlank c = true
    · rw [startsSigned_blank hc] at hsign
      rw [scan_blank hc] at h
      exact ih hsign h
    · obtain ⟨rest, hcs, hnumber⟩ := startsSigned_eq_true_iff.mp hsign
      rw [List.dropWhile_cons_of_neg hc] at hcs
      obtain ⟨rfl, rfl⟩ := List.cons.inj hcs
      rw [scan_cons] at h
      obtain ⟨first, hfirst, hrest⟩ := bind_eq_ok_iff.mp h
      obtain ⟨later, -, rfl⟩ := map_eq_ok_iff.mp hrest
      rw [lexeme, if_neg hc,
        dif_neg (show ¬startsNumber ('-' :: cs) = true from Bool.false_ne_true),
        dif_pos ⟨rfl, rfl, hnumber⟩] at hfirst
      obtain ⟨number, hlexeme, rfl⟩ := map_eq_ok_iff.mp hfirst
      obtain ⟨token, htoken, hnegative⟩ := head?_numberLexeme hlexeme
      refine ⟨token, ?_, hnegative⟩
      rw [Option.mem_def, List.head?_append, Option.mem_def.mp htoken]
      rfl

/-! ## Plain marks -/

/-- A character that is no plain mark stands for itself. -/
theorem eq_cons_of_plainMarks {c : Char} {cs ds : List Char} (h : plainMarks cs = c :: ds)
    (hinch : c ≠ '"') (hfeet : c ≠ '\'') : ∃ cs', cs = c :: cs' ∧ plainMarks cs' = ds := by
  fun_cases plainMarks cs with
  | case1 => cases h
  | case2 cs => exact absurd (List.cons.inj h).1.symm hinch
  | case3 d cs hpair =>
    rw [plainMarks.eq_3 _ _ hpair] at h
    obtain ⟨hmark, hrest⟩ := List.cons.inj h
    rw [plainMark] at hmark
    split at hmark
    · exact absurd hmark.symm hinch
    · split at hmark
      · exact absurd hmark.symm hfeet
      · exact ⟨cs, by rw [hmark], hrest⟩

theorem startsNumber_of_plainMarks {cs : List Char} (h : startsNumber (plainMarks cs) = true) :
    startsNumber cs = true := by
  have hquotes : ∀ {c : Char}, c.isDigit = true → c ≠ '"' ∧ c ≠ '\'' := by
    intro c hc
    constructor <;> (rintro rfl; cases hc)
  cases hplain : plainMarks cs with
  | nil =>
    rw [hplain] at h
    cases h
  | cons c ds =>
    rw [hplain] at h
    by_cases hpoint : c = '.'
    · subst hpoint
      obtain ⟨cs', rfl, hrest⟩ := eq_cons_of_plainMarks hplain (by decide) (by decide)
      obtain _ | ⟨d, ds⟩ := ds
      · cases h
      · have hdigit : d.isDigit = true := h
        obtain ⟨cs'', rfl, -⟩ :=
          eq_cons_of_plainMarks hrest (hquotes hdigit).1 (hquotes hdigit).2
        exact hdigit
    · rw [startsNumber.eq_2 _ _ (fun _ _ hc _ => hpoint hc)] at h
      obtain ⟨cs', rfl, -⟩ := eq_cons_of_plainMarks hplain (hquotes h).1 (hquotes h).2
      rwa [startsNumber.eq_2 _ _ (fun _ _ hc _ => hpoint hc)]

/-- Plain marks are no signs, and they hide none. -/
theorem startsSigned_of_plainMarks {cs : List Char} (h : startsSigned (plainMarks cs) = true) :
    startsSigned cs = true := by
  induction cs with
  | nil => cases h
  | cons c cs ih =>
    by_cases hc : isBlank c = true
    · have hplain : plainMarks (c :: cs) = c :: plainMarks cs := plainMarks_append_blank hc [] cs
      rw [hplain, startsSigned_blank hc] at h
      rw [startsSigned_blank hc]
      exact ih h
    · obtain ⟨rest, hdrop, hnumber⟩ := startsSigned_eq_true_iff.mp h
      have hplain : plainMarks (c :: cs) = '-' :: rest := by
        rw [← hdrop]
        refine (dropWhile_isBlank_eq_self fun d hd => ?_).symm
        by_contra hblank
        obtain ⟨ds, hds⟩ := List.head?_eq_some_iff.mp hd
        have hd' : isBlank d = true := Bool.eq_true_of_not_eq_false hblank
        obtain ⟨cs', hcs, -⟩ := eq_cons_of_plainMarks hds (ne_of_isBlank hd' rfl)
          (ne_of_isBlank hd' rfl)
        rw [(List.cons.inj hcs).1] at hc
        exact hc hd'
      obtain ⟨cs', hcs, hrest⟩ := eq_cons_of_plainMarks hplain (by decide) (by decide)
      obtain ⟨rfl, rfl⟩ := List.cons.inj hcs
      rw [startsSigned_minus]
      refine startsNumber_of_plainMarks ?_
      rwa [hrest]

/-! ## Two texts -/

/-- With a space between them, two texts have the tokens of the first and then those of the second,
or a fault of the second, unless an operand stands in front of what would be a sign. -/
theorem placeless_ofText_append {front back : String} {tokens : List Token}
    (hfront : ofText front = .ok tokens)
    (hsign : endsOperand false tokens = false ∨ startsSigned (plainMarks back.toList) = false) :
    placeless (List.map unplaced) (ofText (front ++ " " ++ back)) =
      (placeless (List.map unplaced) (ofText back)).map (tokens.map unplaced ++ ·) := by
  by_cases hblank : ∀ c ∈ front.toList, isBlank c = true
  · rw [ofText_of_blank hblank] at hfront
    cases hfront
    rw [ofText_append_of_blank hblank]
    cases placeless (List.map unplaced) (ofText back) <;> rfl
  · simp only [not_forall] at hblank
    obtain ⟨c, hc, hne⟩ := hblank
    have hscan : ∀ position, scan position (endsOperand false tokens) (plainMarks back.toList) =
        scan position false (plainMarks back.toList) := by
      intro position
      rcases hsign with hends | hback
      · rw [hends]
      · exact scan_afterOperand hback position _
    rw [ofText_append ⟨c, hc, Bool.eq_false_of_not_eq_true hne⟩, hfront]
    simp only [Except.bind, hscan, placeless_map_append, placeless_scan_eq_ofText]

/-- A text whose first token is not negative does not start with a sign. -/
theorem startsSigned_eq_false_of_ofText {text : String} {tokens : List Token}
    (h : ofText text = .ok tokens) (hfirst : ∀ token ∈ tokens.head?, token.isNegative = false) :
    startsSigned (plainMarks text.toList) = false := by
  by_contra hsign
  obtain ⟨moved, hmoved, hplace⟩ := exists_scan_of_ofText h 0
  obtain ⟨token, htoken, hnegative⟩ :=
    isNegative_of_startsSigned (Bool.eq_true_of_not_eq_false hsign) hmoved
  have hhead : (moved.map unplaced).head? = some token.unplaced := by
    rw [List.head?_map, Option.mem_def.mp htoken]
    rfl
  rw [hplace, List.head?_map, Option.map_eq_some_iff] at hhead
  obtain ⟨other, hother, hsame⟩ := hhead
  have hnot := hfirst other hother
  rw [← isNegative_unplaced, hsame, isNegative_unplaced, hnegative] at hnot
  cases hnot

/-- Behind an operator, and at the front, there is room for a sign. -/
theorem endsOperand_eq_false_of_getLast? {tokens : List Token}
    (h : ∀ token ∈ tokens.getLast?, token.isOperator = true) :
    endsOperand false tokens = false := by
  rw [endsOperand]
  split
  · rfl
  · rename_i token hlast
    rw [h token hlast]
    rfl

/-- **Tokens are found on each side of a space.** A fault of the first text stays where it is.
Behind the tokens of the first text stand those of the second, apart from their places, if the
second does not start with a negative number or the first leaves room for a sign; and a fault of the
second text is found behind the first one if the second does not start with a sign. -/
theorem ofText_append_space (front back : String) :
    (∀ fault, ofText front = .error fault → ofText (front ++ " " ++ back) = .error fault) ∧
      ∀ tokens, ofText front = .ok tokens →
        (∀ behind, ofText back = .ok behind →
          ((∀ token ∈ behind.head?, token.isNegative = false) ∨
            ∀ token ∈ tokens.getLast?, token.isOperator = true) →
          ∃ whole, ofText (front ++ " " ++ back) = .ok whole ∧
            whole.map unplaced = (tokens ++ behind).map unplaced) ∧
        ∀ fault, ofText back = .error fault → startsSigned back.toList = false →
          ∃ position, ofText (front ++ " " ++ back) = .error ⟨fault.cause, position⟩ := by
  refine ⟨fun fault hfault => ?_, fun tokens htokens =>
    ⟨fun behind hbehind hsign => ?_, fun fault hfault hsign => ?_⟩⟩
  · by_cases hblank : ∀ c ∈ front.toList, isBlank c = true
    · rw [ofText_of_blank hblank] at hfault
      cases hfault
    · simp only [not_forall] at hblank
      obtain ⟨c, hc, hne⟩ := hblank
      rw [ofText_append ⟨c, hc, Bool.eq_false_of_not_eq_true hne⟩, hfault]
      rfl
  · have hroom : endsOperand false tokens = false ∨
        startsSigned (plainMarks back.toList) = false :=
      hsign.symm.imp endsOperand_eq_false_of_getLast? (startsSigned_eq_false_of_ofText hbehind)
    rw [← placeless_eq_ok_iff, placeless_ofText_append htokens hroom, hbehind, List.map_append]
    rfl
  · have hplain : startsSigned (plainMarks back.toList) = false := by
      by_contra hnot
      rw [startsSigned_of_plainMarks (Bool.eq_true_of_not_eq_false hnot)] at hsign
      cases hsign
    rw [← placeless_eq_error_iff, placeless_ofText_append htokens (Or.inr hplain), hfault]
    rfl

/-- A sign behind an operator, and faults on either side of the space. -/
theorem ofText_append_space_signedFraction :
    (∃ tokens behind whole, ofText "3' +" = .ok tokens ∧ ofText " -1/2" = .ok behind ∧
      ofText "3' +  -1/2" = .ok whole ∧ whole.map unplaced = (tokens ++ behind).map unplaced) ∧
      ofText "1/ 2" = .error ⟨.denominatorMissing, 1⟩ ∧
      ∃ position, ofText "3' + 1/2'" = .error ⟨.feetAfterFraction, position⟩ := by
  have hfront : (ofText "3' +").map (List.map isOperator) = .ok [false, false, true] := by
    decide +kernel
  obtain ⟨tokens, htokens, hoperators⟩ := map_eq_ok_iff.mp hfront
  have hlast : ∀ token ∈ tokens.getLast?, token.isOperator = true := by
    intro token htoken
    have hmap : (tokens.map isOperator).getLast? = some token.isOperator := by
      rw [List.getLast?_map, Option.mem_def.mp htoken]
      rfl
    rw [hoperators] at hmap
    exact (Option.some.inj hmap).symm
  have hback : (ofText " -1/2").map List.length = .ok 1 := by decide +kernel
  obtain ⟨behind, hbehind, -⟩ := map_eq_ok_iff.mp hback
  obtain ⟨whole, hwhole, hplace⟩ :=
    ((ofText_append_space "3' +" " -1/2").2 tokens htokens).1 behind hbehind (Or.inr hlast)
  have hmissing : ofText "1/" = .error ⟨.denominatorMissing, 1⟩ := by decide +kernel
  have hfeet : ofText "1/2'" = .error ⟨.feetAfterFraction, 3⟩ := by decide +kernel
  refine ⟨⟨tokens, behind, whole, htokens, hbehind, hwhole, hplace⟩, ?_, ?_⟩
  · exact (ofText_append_space "1/" "2").1 _ hmissing
  · exact ((ofText_append_space "3' +" "1/2'").2 tokens htokens).2 _ hfeet (by decide +kernel)

end Token

end TapeMeasure
