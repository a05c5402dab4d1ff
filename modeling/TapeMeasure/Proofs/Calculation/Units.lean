import TapeMeasure.Proofs.Calculation.Continued
import TapeMeasure.Proofs.Token.Occurrence
import TapeMeasure.Record

/-!
# The units of a record

A record says which units a measurement was written with, by the characters of the text as it was
entered.  The calculation reads the text with plain marks.  Both see the same units unless a mark is
typographic, or two single quotes mark inches, and nothing else in the text makes up for it.

* `CalcSubtype.Describes`: the units that tokens are written with.
* `CalcSubtype.Describes.unique`: tokens are written with one kind of units.
* `PlainlyMarked`, `plainlyMarked_iff`: the characters of a text show how it is marked.
* `CalcSubtype.describes_classify_iff`: the characters then say which units the tokens have.
* `calcSubtype_ofResult_iff`: when a record describes the tokens of its expression.
* `calcSubtype_ofResult_differs`: a record that does not.
-/

namespace TapeMeasure

open Token (inchMarks feetMarks plainMarks HasFeet HasInches HasRatio)

/-- The units that the tokens of a measurement are written with. -/
def CalcSubtype.Describes (tokens : List Token) : CalcSubtype → Prop
  | feetInches => HasFeet tokens ∧ HasInches tokens
  | feetOnly => HasFeet tokens ∧ ¬HasInches tokens
  | inchesFractions => ¬HasFeet tokens ∧ (HasInches tokens ∨ HasRatio tokens)
  | mixed => ¬HasFeet tokens ∧ ¬HasInches tokens ∧ ¬HasRatio tokens
  | decimal => False

instance (tokens : List Token) : (s : CalcSubtype) → Decidable (s.Describes tokens)
  | .feetInches => inferInstanceAs (Decidable (_ ∧ _))
  | .feetOnly => inferInstanceAs (Decidable (_ ∧ ¬_))
  | .inchesFractions => inferInstanceAs (Decidable (¬_ ∧ (_ ∨ _)))
  | .mixed => inferInstanceAs (Decidable (¬_ ∧ ¬_ ∧ ¬_))
  | .decimal => inferInstanceAs (Decidable False)

/-- The characters of a text show the marks that it is read with. With a typographic mark for feet
there is a plain single quote as well; with two plain single quotes side by side there is a double
quote, and another mark for feet; with a typographic mark for inches there is a plain double quote,
or a slash and no single quote. -/
structure PlainlyMarked (cs : List Char) : Prop where
  feet : (∃ c ∈ cs, c ∈ feetMarks) → '\'' ∈ cs
  pair : ['\'', '\''] <:+: cs → '"' ∈ cs ∧ '\'' ∈ plainMarks cs
  inches : (∃ c ∈ cs, c ∈ inchMarks) → '"' ∈ cs ∨ ('/' ∈ cs ∧ '\'' ∉ cs)

/-- In other words, a feet mark is read exactly if there is a single quote, and an inch mark only if
there is a double quote, or where it does not matter. -/
theorem plainlyMarked_iff (cs : List Char) :
    PlainlyMarked cs ↔
      ('\'' ∈ plainMarks cs ↔ '\'' ∈ cs) ∧
        ('"' ∈ plainMarks cs → '"' ∈ cs ∨ ('/' ∈ cs ∧ '\'' ∉ cs)) := by
  rw [Token.inch_mem_plainMarks_iff]
  constructor
  · intro h
    refine ⟨⟨fun hfoot => ?_, fun hquote => ?_⟩, ?_⟩
    · exact (Token.foot_of_mem_plainMarks hfoot).elim id h.feet
    · by_cases hpair : ['\'', '\''] <:+: cs
      · exact (h.pair hpair).2
      · exact Token.foot_mem_plainMarks hpair hquote
    · rintro (hinch | htypographic | hpair)
      · exact Or.inl hinch
      · exact h.inches htypographic
      · exact Or.inl (h.pair hpair).1
  · rintro ⟨hfeet, hinches⟩
    refine ⟨fun htypographic => ?_, fun hpair => ?_, fun htypographic => ?_⟩
    · exact hfeet.mp (Token.foot_mem_plainMarks_of_mem_feetMarks htypographic)
    · have hquote : '\'' ∈ cs := hpair.subset List.mem_cons_self
      refine ⟨?_, hfeet.mpr hquote⟩
      exact (hinches (Or.inr (Or.inr hpair))).resolve_right fun hslash => hslash.2 hquote
    · exact hinches (Or.inr (Or.inl htypographic))

namespace CalcSubtype

variable {tokens : List Token} {text : String}

/-- Tokens are written with one kind of units. -/
theorem Describes.unique {s s' : CalcSubtype} (h : s.Describes tokens) (h' : s'.Describes tokens) :
    s = s' := by
  cases s <;> cases s' <;> simp only [Describes] at h h' <;> first | rfl | tauto

theorem classify_eq (text : String) :
    classify text true =
      if '\'' ∈ text.toList ∧ '"' ∈ text.toList then feetInches
      else if '\'' ∈ text.toList then feetOnly
      else if '"' ∈ text.toList ∨ '/' ∈ text.toList then inchesFractions
      else mixed := by
  simp [classify]

/-- The characters of a text tell the units of its tokens exactly if they show how it is marked. -/
theorem describes_classify_iff (h : Token.ofText text = .ok tokens) :
    (classify text true).Describes tokens ↔ PlainlyMarked text.toList := by
  have hinch : '"' ∈ text.toList → '"' ∈ plainMarks text.toList := fun hmem =>
    (Token.inch_mem_plainMarks_iff _).mpr (Or.inl hmem)
  rw [classify_eq, plainlyMarked_iff]
  split
  next hboth =>
    simp only [Describes, Token.hasFeet_iff h, Token.hasInches_iff h, hboth, hinch, iff_true,
      true_or, implies_true]
  next hnotBoth =>
    split
    next hfeet =>
      have hno : '"' ∉ text.toList := fun hmem => hnotBoth ⟨hfeet, hmem⟩
      simp only [Describes, Token.hasFeet_iff h, Token.hasInches_iff h, hfeet, hno, iff_true,
        not_true_eq_false, and_false, or_false, imp_false]
    next hno =>
      have hratio := (Token.hasRatio_iff h).trans (Token.slash_mem_plainMarks_iff _)
      split
      next heither =>
        have hsome : '"' ∈ plainMarks text.toList ∨ '/' ∈ text.toList := heither.imp_left hinch
        simp only [Describes, Token.hasFeet_iff h, Token.hasInches_iff h, hratio, hno, hsome,
          heither, iff_false, not_false_eq_true, and_true, implies_true]
      next hneither =>
        obtain ⟨hnoInch, hnoSlash⟩ := not_or.mp hneither
        simp only [Describes, Token.hasFeet_iff h, Token.hasInches_iff h, hratio, hno, hnoInch,
          hnoSlash, iff_false, not_false_eq_true, and_true, or_false, imp_false]

end CalcSubtype

/-! ## Records -/

variable {text : String} {r : Result}

/-- **When a record describes the tokens of its expression.** For a text with an answer in feet and
inches, the record names the units that the tokens are written with exactly if the characters of the
text show the marks that it is read with. -/
theorem calcSubtype_ofResult_iff (h : calculate text = .answer r) (hmode : r.isInchMode = true)
    (method : InputMethod) (voice trade version : Option String) :
    ∃ tokens, Token.ofText text = .ok tokens ∧
      ((∀ s, (Record.ofResult r method voice trade version).calcSubtype = some s ↔
        s.Describes tokens) ↔ PlainlyMarked text.toList) := by
  obtain ⟨hexpression, -, ⟨tokens, -, htokens, -, -⟩, -⟩ := exists_folds_of_answer h
  have hsubtype : (Record.ofResult r method voice trade version).calcSubtype =
      some (CalcSubtype.classify text true) := by
    rw [Record.ofResult, hexpression, hmode]
  refine ⟨tokens, htokens, ?_⟩
  rw [← CalcSubtype.describes_classify_iff htokens, hsubtype]
  constructor
  · exact fun hdescribes => (hdescribes _).mp rfl
  · intro hclassify s
    rw [Option.some.injEq]
    exact ⟨fun hs => hs ▸ hclassify, fun hs => hclassify.unique hs⟩

/-- An answer and the tokens of its expression, from a condition on both that can be computed. -/
theorem exists_answer_and_tokens {P : Result → List Token → Prop} [∀ r, DecidablePred (P r)]
    (h : ((calculate text).result?.bind fun r =>
      (Token.ofText text).toOption.map fun tokens => decide (P r tokens)) = some true) :
    ∃ r tokens, calculate text = .answer r ∧ Token.ofText text = .ok tokens ∧ P r tokens := by
  obtain ⟨r, hr, h⟩ := Option.bind_eq_some_iff.mp h
  obtain ⟨tokens, htokens, hP⟩ := Option.map_eq_some_iff.mp h
  refine ⟨r, tokens, ?_, toOption_eq_some_iff.mp htokens, of_decide_eq_true hP⟩
  cases houtcome : calculate text with
  | answer result =>
    rw [houtcome] at hr
    exact congrArg _ (Option.some.inj hr)
  | failure | breakdown =>
    rw [houtcome] at hr
    cases hr

theorem calcSubtype_ofResult_iff_feetInches :
    ∃ r tokens, calculate "3' 6” + 2\" + 1/2" = .answer r ∧ r.isInchMode = true ∧
      Token.ofText "3' 6” + 2\" + 1/2" = .ok tokens ∧ CalcSubtype.feetInches.Describes tokens ∧
      ∀ s, (Record.ofResult r .voice none none none).calcSubtype = some s ↔
        s.Describes tokens := by
  have hread : ∃ r tokens, calculate "3' 6” + 2\" + 1/2" = .answer r ∧
      Token.ofText "3' 6” + 2\" + 1/2" = .ok tokens ∧
      r.isInchMode = true ∧ CalcSubtype.feetInches.Describes tokens :=
    exists_answer_and_tokens (by decide +kernel)
  obtain ⟨r, tokens, hr, htokens, hmode, hdescribes⟩ := hread
  obtain ⟨tokens', htokens', hiff⟩ := calcSubtype_ofResult_iff hr hmode .voice none none none
  cases htokens.symm.trans htokens'
  have hplain : PlainlyMarked "3' 6” + 2\" + 1/2".toList :=
    (plainlyMarked_iff _).mpr (by decide +kernel)
  exact ⟨r, tokens, hr, hmode, htokens, hdescribes, hiff.mpr hplain⟩

/-- Feet with a typographic mark are recorded as mixed units, and inches with two single quotes as
feet. -/
theorem calcSubtype_ofResult_differs :
    (∃ r tokens, calculate "5’" = .answer r ∧ Token.ofText "5’" = .ok tokens ∧
      r.isInchMode = true ∧ CalcSubtype.feetOnly.Describes tokens ∧
      (Record.ofResult r .keypad none none none).calcSubtype = some .mixed) ∧
    ∃ r tokens, calculate "5''" = .answer r ∧ Token.ofText "5''" = .ok tokens ∧
      r.isInchMode = true ∧ CalcSubtype.inchesFractions.Describes tokens ∧
      (Record.ofResult r .keypad none none none).calcSubtype = some .feetOnly :=
  ⟨exists_answer_and_tokens (by decide +kernel), exists_answer_and_tokens (by decide +kernel)⟩

end TapeMeasure
