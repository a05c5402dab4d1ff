import Mathlib.Data.List.Chain
import TapeMeasure.Proofs.Token.Lexeme
import TapeMeasure.Token.Scan

/-!
# The tokens cover the text

A scan reads every character once: a text that has tokens is laid out in them and in blanks, and
each token stands where it says.

* `laidOut_of_scan`: the tokens of a scan lay out what was scanned.
* `Covers`: a list of tokens, each with the position behind it, covers a text.  The tokens are
  spelled in order and without overlaps, and what lies between them is blank.
* `LaidOut.exists_covers`: a text that is laid out is covered.
* `ofText_covers`: the tokens of an expression cover it.
-/

namespace TapeMeasure

open Text

namespace Token

/-- The tokens of a scan lay out the text from where the scan starts. -/
theorem laidOut_of_scan {position : Nat} {afterOperand : Bool} {cs : List Char}
    {tokens : List Token} (h : scan position afterOperand cs = .ok tokens) :
    LaidOut position cs tokens := by
  induction position, afterOperand, cs using scan.induct generalizing tokens with
  | case1 position afterOperand =>
    rw [scan_nil] at h
    cases h
    exact LaidOut.nil position
  | case2 position afterOperand c cs ih =>
    rw [scan_cons] at h
    obtain ⟨first, hfirst, h⟩ := bind_eq_ok_iff.mp h
    obtain ⟨later, hlater, rfl⟩ := map_eq_ok_iff.mp h
    obtain ⟨front, rest, hcut, hlength, hopens⟩ := opens_of_lexeme hfirst
    have hdrop : cs.drop first.more = rest := by
      have hleft := drop_of_append_eq hcut.symm
      rwa [hlength, List.drop_succ_cons] at hleft
    have hrest := ih first hlater
    rw [hdrop, Nat.add_assoc, Nat.add_comm 1, ← hlength] at hrest
    rw [hcut]
    exact hopens.laidOut hrest

/-! ## Spans -/

/-- A token with the position behind its last character. -/
abbrev Span :=
  Token × Nat

/-- What may follow a span: a feet mark stands right behind a number. -/
def Follows (span next : Span) : Prop :=
  span.2 ≤ next.1.position ∧
    (next.1.isFeetMark = true →
      (∃ literal negative position, span.1 = .number literal negative position) ∧
        span.2 = next.1.position)

/-- From a position on, a text is covered by spans: their characters spell their tokens, no number
or fraction is followed by a digit, and every other character is blank. -/
structure Covers (text : List Char) (start : Nat) (spans : List Span) : Prop where
  start_le : ∀ span ∈ spans, start ≤ span.1.position
  position_lt : ∀ span ∈ spans, span.1.position < span.2
  le_length : ∀ span ∈ spans, span.2 ≤ text.length
  spelled : ∀ span ∈ spans, Spells ((text.take span.2).drop span.1.position) span.1
  closed : ∀ span ∈ spans, span.1.isNumeric = true → NoDigitFirst (text.drop span.2)
  follows : spans.IsChain Follows
  blank : ∀ i c, start ≤ i → text[i]? = some c →
    (∀ span ∈ spans, ¬(span.1.position ≤ i ∧ i < span.2)) → isBlank c = true

variable {text : List Char} {start : Nat} {spans : List Span}

theorem covers_nil (text : List Char) : Covers text text.length [] where
  start_le _ h := absurd h List.not_mem_nil
  position_lt _ h := absurd h List.not_mem_nil
  le_length _ h := absurd h List.not_mem_nil
  spelled _ h := absurd h List.not_mem_nil
  closed _ h := absurd h List.not_mem_nil
  follows := List.isChain_nil
  blank i c hi hc _ := by
    rw [List.getElem?_eq_none hi] at hc
    cases hc

/-- A blank in front needs no span. -/
theorem Covers.blank_cons {c : Char} (h : Covers text (start + 1) spans)
    (hc : text[start]? = some c) (hblank : isBlank c = true) : Covers text start spans where
  start_le span hspan := Nat.le_of_succ_le (h.start_le span hspan)
  position_lt := h.position_lt
  le_length := h.le_length
  spelled := h.spelled
  closed := h.closed
  follows := h.follows
  blank i d hi hd huncovered := by
    rcases hi.eq_or_lt with rfl | hlt
    · rw [hc] at hd
      cases hd
      exact hblank
    · exact h.blank i d hlt hd huncovered

/-- A token in front takes the characters before the next span. -/
theorem Covers.token_cons {spelling before rest : List Char} (token : Token)
    (h : Covers text (token.position + spelling.length) spans)
    (htext : text = before ++ spelling ++ rest) (hbefore : before.length = token.position)
    (hspells : Spells spelling token) (hclosed : token.isNumeric = true → NoDigitFirst rest)
    (hfollows : ∀ next ∈ spans.head?, next.1.isFeetMark = true →
      (∃ literal negative position, token = .number literal negative position) ∧
        token.position + spelling.length = next.1.position) :
    Covers text token.position ((token, token.position + spelling.length) :: spans) := by
  have hlength : (before ++ spelling).length = token.position + spelling.length := by
    rw [List.length_append, hbefore]
  have htake : text.take (token.position + spelling.length) = before ++ spelling := by
    rw [htext, ← hlength, List.take_left]
  have hdrop : text.drop (token.position + spelling.length) = rest := by
    rw [htext, ← hlength, List.drop_left]
  have hpos := List.length_pos_iff.mpr hspells.ne_nil
  refine ⟨?_, ?_, ?_, ?_, ?_, ?_, ?_⟩
  · refine List.forall_mem_cons.mpr ⟨le_rfl, fun span hspan => ?_⟩
    exact Nat.le_of_add_right_le (h.start_le span hspan)
  · exact List.forall_mem_cons.mpr ⟨Nat.lt_add_of_pos_right hpos, h.position_lt⟩
  · refine List.forall_mem_cons.mpr ⟨?_, h.le_length⟩
    rw [htext, ← hlength]
    exact (List.sublist_append_left _ _).length_le
  · refine List.forall_mem_cons.mpr ⟨?_, h.spelled⟩
    rw [htake, ← hbefore, List.drop_left]
    exact hspells
  · refine List.forall_mem_cons.mpr ⟨fun hnumeric => ?_, h.closed⟩
    rw [hdrop]
    exact hclosed hnumeric
  · refine List.isChain_cons.mpr ⟨fun next hnext => ?_, h.follows⟩
    exact ⟨h.start_le next (List.mem_of_mem_head? hnext), hfollows next hnext⟩
  · intro i c hi hc huncovered
    have hfirst := huncovered _ List.mem_cons_self
    refine h.blank i c ?_ hc fun span hspan => huncovered span (List.mem_cons_of_mem _ hspan)
    simp only [not_and, not_lt] at hfirst
    exact hfirst hi

/-- A number with its feet mark in front takes the characters before the next span. -/
theorem Covers.feet_cons {spelling before rest : List Char} {literal : Literal} {negative : Bool}
    {position : Nat} (h : Covers text (position + spelling.length + 1) spans)
    (htext : text = before ++ spelling ++ ['\''] ++ rest) (hbefore : before.length = position)
    (hspells : Spells spelling (.number literal negative position))
    (hhead : ∀ span ∈ spans.head?, span.1.isFeetMark = false) :
    Covers text position
      ((.number literal negative position, position + spelling.length) ::
        (.feetMark (position + spelling.length), position + spelling.length + 1) :: spans) := by
  have hmark : Covers text (position + spelling.length)
      ((.feetMark (position + spelling.length), position + spelling.length + 1) :: spans) := by
    refine Covers.token_cons (.feetMark (position + spelling.length)) h htext ?_
      (Spells.feetMark _) (fun hnumeric => by cases hnumeric) ?_
    · rw [List.length_append, hbefore]
      rfl
    · intro next hnext hfeet
      rw [hhead next hnext] at hfeet
      cases hfeet
  rw [List.append_assoc _ _ rest] at htext
  refine Covers.token_cons (.number literal negative position) hmark htext hbefore hspells
    (fun _ => noDigitFirst_cons (by decide) rest) ?_
  intro next hnext _
  cases hnext
  exact ⟨⟨literal, negative, position, rfl⟩, rfl⟩

/-- What is laid out behind some characters covers the whole text from there on, and does not start
with a feet mark. -/
theorem LaidOut.exists_covers {cs : List Char} {tokens : List Token}
    (h : LaidOut start cs tokens) {before : List Char} (hbefore : before.length = start) :
    ∃ spans : List Span, spans.map Prod.fst = tokens ∧ Covers (before ++ cs) start spans ∧
      ∀ span ∈ spans.head?, span.1.isFeetMark = false := by
  induction h generalizing before with
  | nil position =>
    refine ⟨[], rfl, ?_, fun _ hspan => absurd hspan (Option.not_mem_none _)⟩
    rw [List.append_nil, ← hbefore]
    exact covers_nil before
  | @blank position c cs tokens hblank hrest ih =>
    have hlength : (before ++ [c]).length = position + 1 := by
      rw [List.length_append, hbefore, List.length_singleton]
    obtain ⟨spans, hspans, hcovers, hhead⟩ := ih hlength
    rw [List.append_assoc, List.singleton_append] at hcovers
    refine ⟨spans, hspans, hcovers.blank_cons ?_ hblank, hhead⟩
    rw [← hbefore, List.getElem?_append_right le_rfl, Nat.sub_self]
    rfl
  | @token spelling cs token tokens hspells hseparate hclosed hrest ih =>
    have hlength : (before ++ spelling).length = token.position + spelling.length := by
      rw [List.length_append, hbefore]
    obtain ⟨spans, hspans, hcovers, hhead⟩ := ih hlength
    refine ⟨(token, token.position + spelling.length) :: spans, by rw [List.map_cons, hspans],
      ?_, fun span hspan => Option.some.inj hspan ▸ hseparate⟩
    rw [List.append_assoc] at hcovers
    refine hcovers.token_cons token (List.append_assoc _ _ _).symm hbefore hspells hclosed ?_
    intro next hnext hfeet
    rw [hhead next hnext] at hfeet
    cases hfeet
  | @feet spelling cs literal negative position tokens hspells hrest ih =>
    have hlength : (before ++ spelling ++ ['\'']).length = position + spelling.length + 1 := by
      rw [List.length_append, List.length_append, hbefore, List.length_singleton]
    have htext : before ++ spelling ++ ['\''] ++ cs = before ++ (spelling ++ '\'' :: cs) := by
      rw [List.append_assoc, List.append_assoc, List.singleton_append]
    obtain ⟨spans, hspans, hcovers, hhead⟩ := ih hlength
    rw [htext] at hcovers
    refine ⟨(.number literal negative position, position + spelling.length) ::
      (.feetMark (position + spelling.length), position + spelling.length + 1) :: spans,
      by rw [List.map_cons, List.map_cons, hspans], ?_,
      fun span hspan => Option.some.inj hspan ▸ rfl⟩
    exact hcovers.feet_cons htext.symm hbefore hspells hhead

/-- The tokens of an expression cover it: nothing is lost and nothing is made up. -/
theorem ofText_covers {text : String} {tokens : List Token} (h : ofText text = .ok tokens) :
    ∃ spans : List Span, spans.map Prod.fst = tokens ∧
      Covers (plainMarks (trim text.toList)) 0 spans ∧
      ∀ span ∈ spans.head?, span.1.isFeetMark = false :=
  (laidOut_of_scan h).exists_covers List.length_nil

theorem ofText_covers_feetAndHalf :
    ∃ tokens, ofText " -3’ 1/2 + .5" = .ok tokens ∧
      tokens.map Token.position = [0, 2, 4, 8, 10] ∧
      ∃ spans : List Span, spans.map Prod.fst = tokens ∧
        Covers (plainMarks (trim " -3’ 1/2 + .5".toList)) 0 spans ∧
        ∀ span ∈ spans.head?, span.1.isFeetMark = false := by
  have hpositions : (ofText " -3’ 1/2 + .5").map (List.map Token.position) =
      .ok [0, 2, 4, 8, 10] := by decide +kernel
  obtain ⟨tokens, htokens, heq⟩ := map_eq_ok_iff.mp hpositions
  exact ⟨tokens, htokens, heq, ofText_covers htokens⟩

end Token

end TapeMeasure
