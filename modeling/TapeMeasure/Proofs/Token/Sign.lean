import TapeMeasure.Proofs.Token.Concatenation
import TapeMeasure.Proofs.Token.Layout

/-!
# Minus signs

A minus sign is the sign of the number right behind it if no operand stands before it, and an
operator everywhere else.  So each minus sign of a text is found again in its tokens, and no token
has a sign that the text does not have.

* `Spells.exists_unsigned`: a number or a fraction is spelled by its sign and something without one.
* `LaidOut.exists_token_of_minus`: what the minus signs of a text are.
* `LaidOut.sign_of_isNegative`: where the sign of a negative token stands.
* `LeavesRoom`, `isChain_of_scan`: signs stand at the front and behind operators only.
-/

namespace TapeMeasure

open Text

namespace Token

/-! ## Signs in a spelling -/

theorem minus_notMem_of_isDigit {cs : List Char} (h : ∀ c ∈ cs, c.isDigit = true) : '-' ∉ cs :=
  fun hmem => absurd (h '-' hmem) (by decide)

theorem NumberForm.minus_notMem {cs : List Char} (h : NumberForm cs) : '-' ∉ cs := by
  cases h with
  | whole isDigit ne => exact minus_notMem_of_isDigit isDigit
  | pointed wholeDigit placeDigit ne =>
    rw [List.mem_append, List.mem_cons, not_or, not_or]
    exact ⟨minus_notMem_of_isDigit wholeDigit, by decide, minus_notMem_of_isDigit placeDigit⟩

theorem NumberForm.startsNumber_append {cs : List Char} (h : NumberForm cs) (rest : List Char) :
    startsNumber (cs ++ rest) = true := by
  cases h with
  | whole isDigit ne =>
    have hproper : (⟨cs, none⟩ : Numeral).Proper :=
      ⟨isDigit, fun c hc => absurd hc List.not_mem_nil, by rwa [Numeral.placeDigits,
        Option.getD_none, List.append_nil]⟩
    exact Numeral.startsNumber_text_append hproper rest
  | @pointed whole places wholeDigit placeDigit ne =>
    have hproper : (⟨whole, some places⟩ : Numeral).Proper := ⟨wholeDigit, placeDigit, ne⟩
    exact Numeral.startsNumber_text_append hproper rest

/-- A number or a fraction is spelled by its sign, if it has one, and a number without a sign. -/
theorem Spells.exists_unsigned {spelling : List Char} {token : Token} (h : Spells spelling token)
    (hnumeric : token.isNumeric = true) :
    ∃ unsigned, spelling = signText token.isNegative ++ unsigned ∧ '-' ∉ unsigned ∧
      ∀ rest, startsNumber (unsigned ++ rest) = true := by
  cases h with
  | number negative position form size =>
    exact ⟨_, rfl, form.minus_notMem, form.startsNumber_append⟩
  | @fraction ratio above below negative position aboveForm belowForm _ _ =>
    refine ⟨above ++ '/' :: below, List.append_assoc _ _ _, ?_, fun rest => ?_⟩
    · rw [List.mem_append, List.mem_cons, not_or, not_or]
      exact ⟨minus_notMem_of_isDigit aboveForm.isDigit, by decide,
        minus_notMem_of_isDigit belowForm.isDigit⟩
    · rw [List.append_assoc]
      exact (NumberForm.whole aboveForm.isDigit aboveForm.ne).startsNumber_append _
  | _ => cases hnumeric

/-- A token that a minus sign belongs to: a negative number or fraction, or the operator itself. -/
def IsMinus (token : Token) : Prop :=
  token.isNegative = true ∨ token = .operator .subtract token.position

/-- A minus sign comes first in the spelling of its token. -/
theorem Spells.isMinus {spelling : List Char} {token : Token} (h : Spells spelling token) {i : Nat}
    (hi : spelling[i]? = some '-') : i = 0 ∧ token.IsMinus := by
  by_cases hnumeric : token.isNumeric = true
  · obtain ⟨unsigned, rfl, hminus, -⟩ := h.exists_unsigned hnumeric
    cases hsign : token.isNegative with
    | false =>
      rw [hsign] at hi
      exact absurd (List.mem_of_getElem? hi) hminus
    | true =>
      rw [hsign] at hi
      cases i with
      | zero => exact ⟨rfl, Or.inl hsign⟩
      | succ i => exact absurd (List.mem_of_getElem? (l := unsigned) hi) hminus
  · -- a single character
    cases h with
    | number | fraction => exact absurd rfl hnumeric
    | operator op position =>
      cases i with
      | zero => cases op <;> cases hi; exact ⟨rfl, Or.inr rfl⟩
      | succ i => cases hi
    | feetMark | inchMark | percent => cases i <;> cases hi

/-! ## Signs in a text -/

section

variable {position : Nat} {cs : List Char} {tokens : List Token}

/-- Every minus sign of a text belongs to a token that starts with it. -/
theorem LaidOut.exists_token_of_minus (h : LaidOut position cs tokens) {i : Nat}
    (hi : cs[i]? = some '-') :
    ∃ token ∈ tokens, token.position = position + i ∧ token.IsMinus := by
  induction h generalizing i with
  | nil position => cases hi
  | @blank position c cs tokens hblank hrest ih =>
    cases i with
    | zero =>
      cases hi
      cases hblank
    | succ i =>
      obtain ⟨token, hmem, hposition, hminus⟩ := ih hi
      exact ⟨token, hmem, by omega, hminus⟩
  | @token spelling cs token tokens hspells hseparate hclosed hrest ih =>
    rcases lt_or_ge i spelling.length with hlt | hge
    · rw [List.getElem?_append_left hlt] at hi
      obtain ⟨rfl, hminus⟩ := hspells.isMinus hi
      exact ⟨token, List.mem_cons_self, rfl, hminus⟩
    · rw [List.getElem?_append_right hge] at hi
      obtain ⟨later, hmem, hposition, hminus⟩ := ih hi
      exact ⟨later, List.mem_cons_of_mem _ hmem, by omega, hminus⟩
  | @feet spelling cs literal negative position tokens hspells hrest ih =>
    rcases lt_trichotomy i spelling.length with hlt | rfl | hgt
    · rw [List.getElem?_append_left hlt] at hi
      obtain ⟨rfl, hminus⟩ := hspells.isMinus hi
      exact ⟨_, List.mem_cons_self, rfl, hminus⟩
    · rw [List.getElem?_append_right le_rfl, Nat.sub_self] at hi
      cases hi
    · obtain ⟨k, rfl⟩ := Nat.exists_eq_add_of_lt hgt
      rw [List.getElem?_append_right (by omega), Nat.add_assoc, Nat.add_sub_cancel_left,
        List.getElem?_cons_succ] at hi
      obtain ⟨later, hmem, hposition, hminus⟩ := ih hi
      exact ⟨later, List.mem_cons_of_mem _ (List.mem_cons_of_mem _ hmem), by omega, hminus⟩

theorem isNumeric_of_isNegative {token : Token} (h : token.isNegative = true) :
    token.isNumeric = true := by
  cases token with
  | number | fraction => rfl
  | _ => cases h

/-- A sign stands in front of a spelling that is negative, and a number follows it. -/
theorem Spells.sign_of_isNegative {spelling : List Char} {token : Token}
    (h : Spells spelling token) (hnegative : token.isNegative = true) (rest : List Char) :
    (spelling ++ rest)[0]? = some '-' ∧ startsNumber ((spelling ++ rest).drop 1) = true := by
  obtain ⟨unsigned, rfl, -, hstarts⟩ := h.exists_unsigned (isNumeric_of_isNegative hnegative)
  rw [hnegative]
  exact ⟨rfl, hstarts rest⟩

/-- A negative token stands at its sign, which is followed by a number. -/
theorem LaidOut.sign_of_isNegative (h : LaidOut position cs tokens) {token : Token}
    (hmem : token ∈ tokens) (hnegative : token.isNegative = true) :
    ∃ i, token.position = position + i ∧ cs[i]? = some '-' ∧
      startsNumber (cs.drop (i + 1)) = true := by
  induction h with
  | nil position => cases hmem
  | @blank position c cs tokens hblank hrest ih =>
    obtain ⟨i, hposition, hsign, hstarts⟩ := ih hmem
    exact ⟨i + 1, by omega, hsign, hstarts⟩
  | @token spelling cs first tokens hspells hseparate hclosed hrest ih =>
    rcases List.mem_cons.mp hmem with rfl | hlater
    · exact ⟨0, rfl, hspells.sign_of_isNegative hnegative cs⟩
    · obtain ⟨i, hposition, hsign, hstarts⟩ := ih hlater
      refine ⟨spelling.length + i, by omega, ?_, ?_⟩
      · rwa [List.getElem?_append_right (Nat.le_add_right _ _), Nat.add_sub_cancel_left]
      · rwa [Nat.add_assoc, List.drop_length_add_append]
  | @feet spelling cs literal negative position tokens hspells hrest ih =>
    rcases List.mem_cons.mp hmem with rfl | hlater
    · exact ⟨0, rfl, hspells.sign_of_isNegative hnegative _⟩
    · rcases List.mem_cons.mp hlater with rfl | hlater
      · cases hnegative
      · obtain ⟨i, hposition, hsign, hstarts⟩ := ih hlater
        refine ⟨spelling.length + (i + 1), by omega, ?_, ?_⟩
        · rwa [List.getElem?_append_right (Nat.le_add_right _ _), Nat.add_sub_cancel_left]
        · rwa [Nat.add_assoc, List.drop_length_add_append]

end

/-! ## Room for a sign -/

/-- A token leaves room for the sign of the next one if it is an operator. -/
def LeavesRoom (token next : Token) : Prop :=
  next.isNegative = true → token.isOperator = true

section

variable {position : Nat} {afterOperand : Bool} {first : Lexeme} {cs : List Char}

theorem isNegative_of_markLexeme {c : Char} (h : markLexeme position c = .ok first) :
    ∀ token ∈ first.tokens, token.isNegative = false := by
  rw [markLexeme] at h
  split at h
  · cases h
    exact List.forall_mem_singleton.mpr rfl
  · split at h
    · cases h
      exact List.forall_mem_singleton.mpr rfl
    · split at h
      · cases h
        exact List.forall_mem_singleton.mpr rfl
      · split at h <;> cases h

/-- One step of the scan finds a sign in front only where no operand stands before it. -/
theorem afterOperand_eq_false_of_lexeme {c : Char}
    (h : lexeme position afterOperand c cs = .ok first) {token : Token}
    (hhead : token ∈ first.tokens.head?) (hnegative : token.isNegative = true) :
    afterOperand = false := by
  rw [lexeme] at h
  split at h
  · cases h
    cases hhead
  · split at h
    · obtain ⟨number, hnumber, hsign⟩ := head?_numberLexeme h
      rw [Option.mem_unique hhead hnumber, hsign] at hnegative
      cases hnegative
    · split at h
      · rename_i hminus
        exact hminus.2.1
      · rw [isNegative_of_markLexeme h token (List.mem_of_mem_head? hhead)] at hnegative
        cases hnegative

/-- The tokens of one step leave room for each other. -/
theorem isChain_of_lexeme {c : Char} (h : lexeme position afterOperand c cs = .ok first) :
    first.tokens.IsChain LeavesRoom := by
  obtain ⟨front, rest, -, -, hopens⟩ := opens_of_lexeme h
  generalize first.tokens = tokens at hopens
  cases hopens with
  | blank position blank => exact List.isChain_nil
  | token spells separate closed => exact List.isChain_singleton _
  | feet spells => exact List.isChain_pair.mpr fun hnegative => by cases hnegative

/-- The tokens of a scan leave room for each other, and the first one has a sign only where no
operand stands before it. -/
theorem isChain_of_scan {tokens : List Token} (h : scan position afterOperand cs = .ok tokens) :
    tokens.IsChain LeavesRoom ∧
      ∀ token ∈ tokens.head?, token.isNegative = true → afterOperand = false := by
  induction position, afterOperand, cs using scan.induct generalizing tokens with
  | case1 position afterOperand =>
    rw [scan_nil] at h
    cases h
    exact ⟨List.isChain_nil, fun token htoken => absurd htoken (Option.not_mem_none token)⟩
  | case2 position afterOperand c cs ih =>
    rw [scan_cons] at h
    obtain ⟨first, hfirst, h⟩ := bind_eq_ok_iff.mp h
    obtain ⟨later, hlater, rfl⟩ := map_eq_ok_iff.mp h
    obtain ⟨hchain, hroom⟩ := ih first hlater
    have hstep := isChain_of_lexeme hfirst
    have hsign : ∀ token ∈ first.tokens.head?, token.isNegative = true → afterOperand = false :=
      fun _ => afterOperand_eq_false_of_lexeme hfirst
    -- the state behind a step is that before it if it has no tokens, and else says what the last is
    rcases List.eq_nil_or_concat first.tokens with hnil | ⟨before, last, hlast⟩
    · rw [hnil] at hroom ⊢
      exact ⟨hchain, hroom⟩
    · rw [List.concat_eq_append] at hlast
      rw [hlast] at hstep hroom hsign ⊢
      rw [endsOperand, List.getLast?_concat] at hroom
      refine ⟨List.isChain_append.mpr ⟨hstep, hchain, ?_⟩, fun token htoken => hsign token ?_⟩
      · intro x hx y hy hnegative
        rw [List.getLast?_concat, Option.mem_some_iff] at hx
        rw [← hx]
        simpa using hroom y hy hnegative
      · rwa [List.head?_append_of_ne_nil _ (List.concat_ne_nil _ _)] at htoken

end

end Token

end TapeMeasure
