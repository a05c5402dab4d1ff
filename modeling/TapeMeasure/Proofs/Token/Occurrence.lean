import TapeMeasure.Proofs.Token.Append
import TapeMeasure.Proofs.Token.Layout

/-!
# Characters that occur in a text

Apart from blanks, digits and points, the characters of a text with plain marks are those of its
tokens, so they tell which kinds of tokens it has.  As it was entered, the text may have marks for
feet and inches in other forms too.

* `Token.marks`: the characters of a token without its digits and points.
* `Spells.mem_iff`, `LaidOut.mem_iff`: the characters of a text are the marks of its tokens.
* `slash_mem_plainMarks_iff`, `inch_mem_plainMarks_iff`, `foot_of_mem_plainMarks`,
  `foot_mem_plainMarks`: where the plain marks of a text come from.
* `hasFeet_iff`, `hasInches_iff`, `hasRatio_iff`: which kinds of tokens a text has.
-/

namespace TapeMeasure

open Text

namespace Token

/-! ## The characters of tokens -/

/-- The characters of a token that are neither digits nor points. -/
def marks : Token → List Char
  | number _ negative _ => signText negative
  | fraction _ negative _ => signText negative ++ ['/']
  | feetMark _ => ['\'']
  | inchMark _ => ['"']
  | operator op _ => [op.symbol]
  | percent _ => ['%']

variable {c : Char} {cs : List Char}

theorem NumberForm.isNumeric_of_mem (h : NumberForm cs) (hmem : c ∈ cs) :
    Text.isNumeric c = true := by
  rw [Text.isNumeric, Bool.or_eq_true, beq_iff_eq]
  cases h with
  | whole isDigit ne => exact Or.inl (isDigit c hmem)
  | pointed wholeDigit placeDigit ne =>
    rcases List.mem_append.mp hmem with hwhole | hbehind
    · exact Or.inl (wholeDigit c hwhole)
    · rcases List.mem_cons.mp hbehind with hpoint | hplaces
      · exact Or.inr hpoint
      · exact Or.inl (placeDigit c hplaces)

theorem NumberForm.notMem (h : NumberForm cs) (hc : Text.isNumeric c = false) : c ∉ cs := by
  intro hmem
  rw [h.isNumeric_of_mem hmem] at hc
  cases hc

/-- A token is spelled with its marks, digits and points. -/
theorem Spells.mem_iff {token : Token} (h : Spells cs token) (hc : Text.isNumeric c = false) :
    c ∈ cs ↔ c ∈ token.marks := by
  cases h with
  | number negative position form size =>
    rw [List.mem_append, or_iff_left (form.notMem hc)]
    rfl
  | fraction negative position aboveForm belowForm _ _ =>
    have habove := (NumberForm.whole aboveForm.isDigit aboveForm.ne).notMem hc
    have hbelow := (NumberForm.whole belowForm.isDigit belowForm.ne).notMem hc
    rw [List.append_assoc, List.mem_append, List.mem_append, or_iff_right habove, List.mem_cons,
      or_iff_left hbelow, ← List.mem_singleton, ← List.mem_append]
    rfl
  | feetMark | inchMark | operator | percent => rfl

theorem ne_of_isBlank_eq_false {b : Char} (hb : isBlank b = true) (hc : isBlank c = false) :
    c ≠ b := by
  rintro rfl
  rw [hb] at hc
  cases hc

/-- A text is written with the marks of its tokens, blanks, digits and points. -/
theorem LaidOut.mem_iff {position : Nat} {tokens : List Token} (h : LaidOut position cs tokens)
    (hblank : isBlank c = false) (hc : Text.isNumeric c = false) :
    c ∈ cs ↔ ∃ token ∈ tokens, c ∈ token.marks := by
  induction h with
  | nil position => simp
  | blank hspace hrest ih =>
    rw [List.mem_cons, or_iff_right (ne_of_isBlank_eq_false hspace hblank), ih]
  | token hspells hseparate hclosed hrest ih =>
    rw [List.mem_append, hspells.mem_iff hc, ih, List.exists_mem_cons_iff]
  | feet hspells hrest ih =>
    rw [List.mem_append, hspells.mem_iff hc, List.mem_cons, ih, List.exists_mem_cons_iff,
      List.exists_mem_cons_iff, ← List.mem_singleton]
    rfl

/-! ## Plain marks -/

theorem plainMark_eq_inch_iff : plainMark c = '"' ↔ c = '"' ∨ c ∈ inchMarks := by
  rw [plainMark]
  split
  · exact iff_of_true rfl (Or.inr ‹_›)
  · split
    · rename_i hinch hfeet
      refine iff_of_false (by decide) (not_or.mpr ⟨?_, hinch⟩)
      rintro rfl
      exact absurd hfeet (by decide)
    · exact (or_iff_left ‹_›).symm

theorem plainMark_eq_quote_iff : plainMark c = '\'' ↔ c = '\'' ∨ c ∈ feetMarks := by
  rw [plainMark]
  split
  · rename_i hinch
    refine iff_of_false (by decide) fun hquote => ?_
    simp only [inchMarks, List.mem_cons, List.not_mem_nil, or_false] at hinch
    rcases hinch with rfl | rfl | rfl <;> exact absurd hquote (by decide)
  · split
    · exact iff_of_true rfl (Or.inr ‹_›)
    · exact (or_iff_left ‹_›).symm

theorem plainMark_eq_slash_iff : plainMark c = '/' ↔ c = '/' := by
  rw [plainMark]
  split
  · exact iff_of_false (by decide) (by rintro rfl; exact absurd ‹_› (by decide))
  · split
    · exact iff_of_false (by decide) (by rintro rfl; exact absurd ‹_› (by decide))
    · rfl

/-- Slashes are no marks. -/
theorem slash_mem_plainMarks_iff (cs : List Char) : '/' ∈ plainMarks cs ↔ '/' ∈ cs := by
  fun_induction plainMarks cs with
  | case1 => rfl
  | case2 cs ih => simpa using ih
  | case3 c cs _ ih =>
    rw [List.mem_cons, List.mem_cons, ih, eq_comm, plainMark_eq_slash_iff, eq_comm]

/-- An inch mark comes from a double quote, plain or not, or from two plain single ones. -/
theorem inch_mem_plainMarks_iff (cs : List Char) :
    '"' ∈ plainMarks cs ↔
      '"' ∈ cs ∨ (∃ c ∈ cs, c ∈ inchMarks) ∨ ['\'', '\''] <:+: cs := by
  fun_induction plainMarks cs with
  | case1 => simp
  | case2 cs ih => exact iff_of_true List.mem_cons_self (Or.inr (Or.inr ⟨[], cs, rfl⟩))
  | case3 c cs hpair ih =>
    have hfront : ¬['\'', '\''] <+: c :: cs := by
      rintro ⟨ds, hds⟩
      obtain ⟨hc, hcs⟩ := List.cons.inj hds
      exact hpair ds hc.symm hcs.symm
    rw [List.mem_cons, ih, eq_comm, plainMark_eq_inch_iff, eq_comm (a := c), List.mem_cons,
      List.exists_mem_cons_iff, List.infix_cons_iff, or_iff_right hfront, or_or_or_comm,
      ← or_assoc (a := c ∈ inchMarks)]

/-- A feet mark comes from a single quote, plain or not. -/
theorem foot_of_mem_plainMarks (h : '\'' ∈ plainMarks cs) :
    '\'' ∈ cs ∨ ∃ c ∈ cs, c ∈ feetMarks := by
  fun_induction plainMarks cs with
  | case1 => cases h
  | case2 cs ih => exact Or.inl List.mem_cons_self
  | case3 c cs _ ih =>
    rw [List.mem_cons, List.exists_mem_cons_iff]
    rcases List.mem_cons.mp h with hc | hcs
    · rcases plainMark_eq_quote_iff.mp hc.symm with hquote | hfeet
      · exact Or.inl (Or.inl hquote.symm)
      · exact Or.inr (Or.inl hfeet)
    · exact (ih hcs).imp Or.inr Or.inr

/-- A single quote becomes a feet mark, unless it is plain and stands beside another plain one. -/
theorem foot_mem_plainMarks (hpair : ¬['\'', '\''] <:+: cs) (h : '\'' ∈ cs) :
    '\'' ∈ plainMarks cs := by
  fun_induction plainMarks cs with
  | case1 => cases h
  | case2 cs ih => exact absurd ⟨[], cs, rfl⟩ hpair
  | case3 c cs _ ih =>
    rcases List.mem_cons.mp h with rfl | hcs
    · exact List.mem_cons.mpr (Or.inl (plainMark_eq_quote_iff.mpr (Or.inl rfl)).symm)
    · exact List.mem_cons_of_mem _ (ih (fun hlater => hpair (List.infix_cons hlater)) hcs)

/-- A typographic single quote always becomes one. -/
theorem foot_mem_plainMarks_of_mem_feetMarks (h : ∃ c ∈ cs, c ∈ feetMarks) :
    '\'' ∈ plainMarks cs := by
  fun_induction plainMarks cs with
  | case1 => simp at h
  | case2 cs ih =>
    rw [List.exists_mem_cons_iff, List.exists_mem_cons_iff] at h
    have hplain : '\'' ∉ feetMarks := by decide
    exact List.mem_cons_of_mem _ (ih ((h.resolve_left hplain).resolve_left hplain))
  | case3 c cs _ ih =>
    rcases (List.exists_mem_cons_iff _ _ _).mp h with hc | hcs
    · exact List.mem_cons.mpr (Or.inl (plainMark_eq_quote_iff.mpr (Or.inr hc)).symm)
    · exact List.mem_cons_of_mem _ (ih hcs)

/-! ## Kinds of tokens -/

/-- Whether a token is an inch mark. -/
def isInchMark : Token → Bool
  | inchMark _ => true
  | _ => false

/-- Whether a token is a fraction or a division. -/
def isRatio : Token → Bool
  | fraction _ _ _ => true
  | operator .divide _ => true
  | _ => false

/-- Whether there is a feet mark among tokens. -/
def HasFeet (tokens : List Token) : Prop :=
  ∃ token ∈ tokens, token.isFeetMark = true

/-- Whether there is an inch mark among tokens. -/
def HasInches (tokens : List Token) : Prop :=
  ∃ token ∈ tokens, token.isInchMark = true

/-- Whether there is a fraction or a division among tokens. -/
def HasRatio (tokens : List Token) : Prop :=
  ∃ token ∈ tokens, token.isRatio = true

instance (tokens : List Token) : Decidable (HasFeet tokens) :=
  inferInstanceAs (Decidable (∃ token ∈ tokens, token.isFeetMark = true))

instance (tokens : List Token) : Decidable (HasInches tokens) :=
  inferInstanceAs (Decidable (∃ token ∈ tokens, token.isInchMark = true))

instance (tokens : List Token) : Decidable (HasRatio tokens) :=
  inferInstanceAs (Decidable (∃ token ∈ tokens, token.isRatio = true))

theorem notMem_signText (hc : c ≠ '-') (negative : Bool) : c ∉ signText negative := by
  cases negative with
  | false => exact List.not_mem_nil
  | true => exact fun h => hc (List.mem_singleton.mp h)

theorem foot_mem_marks_iff (token : Token) : '\'' ∈ token.marks ↔ token.isFeetMark = true := by
  cases token with
  | number | fraction => simp [marks, isFeetMark, notMem_signText]
  | operator op => cases op <;> simp [marks, isFeetMark, Operator.symbol]
  | feetMark | inchMark | percent => simp [marks, isFeetMark]

theorem inch_mem_marks_iff (token : Token) : '"' ∈ token.marks ↔ token.isInchMark = true := by
  cases token with
  | number | fraction => simp [marks, isInchMark, notMem_signText]
  | operator op => cases op <;> simp [marks, isInchMark, Operator.symbol]
  | feetMark | inchMark | percent => simp [marks, isInchMark]

theorem slash_mem_marks_iff (token : Token) : '/' ∈ token.marks ↔ token.isRatio = true := by
  cases token with
  | number | fraction => simp [marks, isRatio, notMem_signText]
  | operator op => cases op <;> simp [marks, isRatio, Operator.symbol]
  | feetMark | inchMark | percent => simp [marks, isRatio]

section

variable {text : String} {tokens : List Token}

/-- The marks of the tokens of a text are its plain marks. -/
theorem mem_plainMarks_iff_of_ofText (h : ofText text = .ok tokens) (hblank : isBlank c = false)
    (hc : Text.isNumeric c = false) :
    c ∈ plainMarks text.toList ↔ ∃ token ∈ tokens, c ∈ token.marks := by
  have hlead : ∀ b ∈ text.toList.takeWhile isBlank, isBlank b = true := fun b hb =>
    List.all_eq_true.mp List.all_takeWhile b hb
  have hnot : c ∉ text.toList.takeWhile isBlank := fun hmem =>
    ne_of_isBlank_eq_false (hlead c hmem) hblank rfl
  have hcut := plainMarks_append_of_blank hlead (text.toList.dropWhile isBlank)
  rw [List.takeWhile_append_dropWhile] at hcut
  rw [ofText_eq_scan] at h
  rw [hcut, List.mem_append, or_iff_right hnot, (laidOut_of_scan h).mem_iff hblank hc]

theorem hasFeet_iff (h : ofText text = .ok tokens) :
    HasFeet tokens ↔ '\'' ∈ plainMarks text.toList := by
  rw [mem_plainMarks_iff_of_ofText h rfl rfl]
  simp only [foot_mem_marks_iff, HasFeet]

theorem hasInches_iff (h : ofText text = .ok tokens) :
    HasInches tokens ↔ '"' ∈ plainMarks text.toList := by
  rw [mem_plainMarks_iff_of_ofText h rfl rfl]
  simp only [inch_mem_marks_iff, HasInches]

theorem hasRatio_iff (h : ofText text = .ok tokens) :
    HasRatio tokens ↔ '/' ∈ plainMarks text.toList := by
  rw [mem_plainMarks_iff_of_ofText h rfl rfl]
  simp only [slash_mem_marks_iff, HasRatio]

end

end Token

end TapeMeasure
