import TapeMeasure.Calculation
import TapeMeasure.Proofs.Token.Append

/-!
# Typographic marks

A typographic mark gets the plain mark that it stands for, one character for one.  Two plain single
quotes are an inch mark before that happens, so a typographic quote beside another single quote does
not become half of an inch mark, as a plain one would.  That is the only difference that it makes
whether a text has typographic marks or plain ones.

* `PairsUp`: where two single quotes would be an inch mark if both were plain.
* `pairsUp_pair_iff`, `pairsUp_cons_iff`: the same along a text, as the marks are replaced.
* `plainMarks_map_iff`: a text has the marks of its translation exactly if nothing pairs up.
* `plainMarks_plainMarks_map`: replacing the marks again changes nothing more.
* `Outcome.echoing`, `calculate_echoing`: outcomes of texts with the same tokens differ only in the
  text that they repeat.
* `calculate_translated`: when typographic marks act like plain ones.
-/

namespace TapeMeasure

open Text

namespace Token

variable {c : Char} {cs : List Char}

/-! ## Single marks -/

theorem plainMark_quote : plainMark '\'' = '\'' := by decide

theorem plainMark_plainMark (c : Char) : plainMark (plainMark c) = plainMark c := by
  by_cases hinch : c ∈ inchMarks
  · rw [plainMark, plainMark, if_pos hinch]
    decide
  · by_cases hfeet : c ∈ feetMarks
    · rw [plainMark, plainMark, if_neg hinch, if_pos hfeet]
      decide
    · have hself : plainMark c = c := by rw [plainMark, if_neg hinch, if_neg hfeet]
      rw [hself, hself]

/-- A mark is no blank, and neither is its plain one. -/
theorem isBlank_plainMark (c : Char) : isBlank (plainMark c) = isBlank c := by
  cases hblank : isBlank c with
  | true => rw [plainMark_of_isBlank hblank, hblank]
  | false =>
    rw [plainMark]
    split
    · rfl
    · split
      · rfl
      · exact hblank

/-- The first of two plain marks is read alone unless both are single quotes. -/
theorem plainMarks_cons (h : ¬∃ ds, c = '\'' ∧ cs = '\'' :: ds) :
    plainMarks (c :: cs) = plainMark c :: plainMarks cs :=
  plainMarks.eq_3 c cs fun ds hc hcs => h ⟨ds, hc, hcs⟩

/-! ## Quotes that pair up -/

/-- Two marks for feet stand side by side, not both of them plain, behind a whole number of pairs of
plain quotes. If all marks were plain, the two would be an inch mark. -/
def PairsUp (cs : List Char) : Prop :=
  ∃ (front : List Char) (pairs : Nat) (c d : Char) (after : List Char),
    cs = front ++ (List.replicate (2 * pairs) '\'' ++ c :: d :: after) ∧
      front.getLast? ≠ some '\'' ∧ plainMark c = '\'' ∧ plainMark d = '\'' ∧
      ¬(c = '\'' ∧ d = '\'')

theorem not_pairsUp_nil : ¬PairsUp [] := by
  rintro ⟨front, pairs, c, d, after, hcs, -⟩
  have hlength := congrArg List.length hcs
  simp at hlength

theorem replicate_pairs_succ (pairs : Nat) :
    List.replicate (2 * (pairs + 1)) '\'' = '\'' :: '\'' :: List.replicate (2 * pairs) '\'' := rfl

/-- A pair of plain quotes makes no difference to what pairs up behind it. -/
theorem pairsUp_pair_iff : PairsUp ('\'' :: '\'' :: cs) ↔ PairsUp cs := by
  constructor
  · rintro ⟨front, pairs, c, d, after, hcs, hfront, hc, hd, hplain⟩
    obtain _ | ⟨x, _ | ⟨y, front⟩⟩ := front
    · obtain _ | pairs := pairs
      · obtain ⟨rfl, hrest⟩ := List.cons.inj hcs
        exact absurd ⟨rfl, (List.cons.inj hrest).1.symm⟩ hplain
      · rw [replicate_pairs_succ] at hcs
        exact ⟨[], pairs, c, d, after, (List.cons.inj (List.cons.inj hcs).2).2, hfront, hc, hd,
          hplain⟩
    · obtain ⟨rfl, -⟩ := List.cons.inj hcs
      exact absurd rfl hfront
    · obtain ⟨-, hbehind⟩ := List.cons.inj hcs
      obtain ⟨rfl, hrest⟩ := List.cons.inj hbehind
      refine ⟨front, pairs, c, d, after, hrest, fun hlast => hfront ?_, hc, hd, hplain⟩
      obtain _ | ⟨z, front⟩ := front
      · cases hlast
      · exact hlast
  · rintro ⟨front, pairs, c, d, after, rfl, hfront, hc, hd, hplain⟩
    obtain _ | ⟨z, front⟩ := front
    · exact ⟨[], pairs + 1, c, d, after, rfl, hfront, hc, hd, hplain⟩
    · exact ⟨'\'' :: '\'' :: z :: front, pairs, c, d, after, rfl, hfront, hc, hd, hplain⟩

/-- Neither does a character that is no mark for feet, or is not followed by one. -/
theorem pairsUp_cons_iff (h : plainMark c = '\'' → ∀ d ∈ cs.head?, plainMark d ≠ '\'') :
    PairsUp (c :: cs) ↔ PairsUp cs := by
  constructor
  · rintro ⟨front, pairs, x, y, after, hcs, hfront, hx, hy, hplain⟩
    obtain _ | ⟨z, front⟩ := front
    · obtain _ | pairs := pairs
      · obtain ⟨rfl, rfl⟩ := List.cons.inj hcs
        exact absurd hy (h hx y rfl)
      · rw [replicate_pairs_succ] at hcs
        obtain ⟨rfl, rfl⟩ := List.cons.inj hcs
        exact absurd plainMark_quote (h plainMark_quote '\'' rfl)
    · obtain ⟨rfl, rfl⟩ := List.cons.inj hcs
      refine ⟨front, pairs, x, y, after, rfl, fun hlast => hfront ?_, hx, hy, hplain⟩
      obtain _ | ⟨w, front⟩ := front
      · cases hlast
      · exact hlast
  · rintro ⟨front, pairs, x, y, after, rfl, hfront, hx, hy, hplain⟩
    refine ⟨c :: front, pairs, x, y, after, rfl, ?_, hx, hy, hplain⟩
    obtain _ | ⟨w, front⟩ := front
    · -- right behind a plain quote no mark for feet could follow
      intro hquote
      obtain rfl : c = '\'' := Option.some.inj hquote
      obtain _ | pairs := pairs
      · exact h plainMark_quote x rfl hx
      · exact h plainMark_quote '\'' rfl plainMark_quote
    · exact hfront

/-- Two marks for feet at the front pair up if they are not both plain. -/
theorem pairsUp_of_front {d : Char} {ds : List Char} (hc : plainMark c = '\'')
    (hd : plainMark d = '\'') (hplain : ¬(c = '\'' ∧ d = '\'')) : PairsUp (c :: d :: ds) :=
  ⟨[], 0, c, d, ds, rfl, fun h => (nomatch h), hc, hd, hplain⟩

/-! ## The translated text -/

/-- **A text has the marks of its translation exactly if nothing pairs up.** -/
theorem plainMarks_map_iff (cs : List Char) :
    plainMarks cs = plainMarks (cs.map plainMark) ↔ ¬PairsUp cs := by
  fun_induction plainMarks cs with
  | case1 => exact iff_of_true rfl not_pairsUp_nil
  | case2 cs ih =>
    rw [pairsUp_pair_iff, ← ih, List.map_cons, List.map_cons, plainMark_quote, plainMarks.eq_2,
      List.cons_inj_right]
  | case3 c cs hpair ih =>
    have halone : ¬∃ ds, c = '\'' ∧ cs = '\'' :: ds := by
      rintro ⟨ds, hc, hcs⟩
      exact hpair ds hc hcs
    rw [List.map_cons]
    by_cases hfeet : plainMark c = '\'' ∧ ∃ d ∈ cs.head?, plainMark d = '\''
    · -- the plain marks are an inch mark, and the text has a single quote there
      obtain ⟨hc, d, hhead, hd⟩ := hfeet
      obtain ⟨ds, rfl⟩ := List.head?_eq_some_iff.mp hhead
      have hplain : ¬(c = '\'' ∧ d = '\'') := by
        rintro ⟨hc, hd⟩
        exact halone ⟨ds, hc, by rw [hd]⟩
      refine iff_of_false ?_ (not_not_intro (pairsUp_of_front hc hd hplain))
      rw [List.map_cons, hc, hd, plainMarks.eq_2]
      intro h
      exact absurd (List.cons.inj h).1 (by decide)
    · have hnot : plainMark c = '\'' → ∀ d ∈ cs.head?, plainMark d ≠ '\'' :=
        fun hc d hd hfoot => hfeet ⟨hc, d, hd, hfoot⟩
      have hmap : ¬∃ ds, plainMark c = '\'' ∧ cs.map plainMark = '\'' :: ds := by
        rintro ⟨ds, hc, hds⟩
        obtain ⟨d, rest, rfl, hd, -⟩ := List.map_eq_cons_iff.mp hds
        exact hnot hc d rfl hd
      rw [plainMarks_cons hmap, plainMark_plainMark, List.cons_inj_right, ih,
        pairsUp_cons_iff hnot]

/-- No two single quotes are left side by side in a text that had plain marks only, so its marks are
not replaced again. -/
theorem plainMarks_plainMarks_map (cs : List Char) :
    plainMarks (plainMarks (cs.map plainMark)) = plainMarks (cs.map plainMark) := by
  generalize hplain : cs.map plainMark = ds
  have hself : ∀ d ∈ ds, plainMark d = d := by
    rw [← hplain]
    intro d hd
    obtain ⟨c, -, rfl⟩ := List.mem_map.mp hd
    exact plainMark_plainMark c
  clear hplain
  fun_induction plainMarks ds with
  | case1 => rfl
  | case2 ds ih =>
    have hinch : ¬∃ es, '"' = '\'' ∧ plainMarks ds = '\'' :: es := by
      rintro ⟨es, h, -⟩
      exact absurd h (by decide)
    rw [plainMarks_cons hinch,
      ih fun d hd => hself d (List.mem_cons_of_mem _ (List.mem_cons_of_mem _ hd))]
    rfl
  | case3 d ds hpair ih =>
    have hd : plainMark d = d := hself d List.mem_cons_self
    rw [hd, plainMarks_cons, hd, ih fun d hd => hself d (List.mem_cons_of_mem _ hd)]
    rintro ⟨es, hquote, hes⟩
    -- a single quote comes first behind another one only where it came first before
    obtain _ | ⟨e, ds⟩ := ds
    · cases hes
    · by_cases hfront : ∃ rest, e = '\'' ∧ ds = '\'' :: rest
      · obtain ⟨rest, rfl, rfl⟩ := hfront
        exact hpair _ hquote rfl
      · rw [plainMarks_cons hfront, hself e (List.mem_cons_of_mem _ List.mem_cons_self)] at hes
        exact hpair ds hquote (by rw [(List.cons.inj hes).1])

theorem dropWhile_isBlank_map (cs : List Char) :
    (cs.map plainMark).dropWhile isBlank = (cs.dropWhile isBlank).map plainMark := by
  have hblank : isBlank ∘ plainMark = isBlank := funext isBlank_plainMark
  rw [List.dropWhile_map, hblank]

/-- The blanks before a text do not matter to its marks. -/
theorem plainMarks_dropWhile_iff (cs : List Char) :
    plainMarks (cs.dropWhile isBlank) = plainMarks ((cs.map plainMark).dropWhile isBlank) ↔
      plainMarks cs = plainMarks (cs.map plainMark) := by
  have hlead : ∀ c ∈ cs.takeWhile isBlank, isBlank c = true := fun c hc =>
    List.all_eq_true.mp List.all_takeWhile c hc
  have hself : (cs.takeWhile isBlank).map plainMark = cs.takeWhile isBlank :=
    (List.map_congr_left fun c hc => plainMark_of_isBlank (hlead c hc)).trans (List.map_id _)
  rw [dropWhile_isBlank_map]
  conv_rhs =>
    rw [← List.takeWhile_append_dropWhile (p := isBlank) (l := cs), List.map_append, hself]
  rw [plainMarks_append_of_blank hlead, plainMarks_append_of_blank hlead,
    List.append_cancel_left_eq]

end Token

/-! ## Outcomes -/

/-- The outcome with another text in place of the one that it repeats. -/
def Outcome.echoing (text : String) : Outcome → Outcome
  | .answer result => .answer { result with expression := text }
  | .failure (.notTokens _ fault) => .failure (.notTokens text fault)
  | .failure (.notExpression _ fault) => .failure (.notExpression text fault)
  | .failure (.arithmetic fault) => .failure (.arithmetic fault)
  | .failure (.outOfRange _ fault) => .failure (.outOfRange text fault)
  | .breakdown => .breakdown

theorem answerOf_echoing (text other : String) (measurement : Bool) (q : Quantity) :
    (answerOf text measurement q).echoing other = answerOf other measurement q := by
  unfold answerOf
  cases q.display measurement with
  | ok shown => rfl
  | error fault => cases fault <;> rfl

/-- The outcome depends only on the tokens, but for the text that it repeats. -/
theorem calculate_echoing {text other : String} (h : Token.ofText text = Token.ofText other) :
    (calculate text).echoing other = calculate other := by
  rw [calculate, calculate, h]
  cases Token.ofText other with
  | error fault => rfl
  | ok tokens =>
    cases hexpression : Expression.ofTokens tokens with
    | error fault =>
      simp only [hexpression]
      rfl
    | ok e =>
      simp only [hexpression, Expression.evaluate]
      cases e.fold with
      | error fault => rfl
      | ok q => exact answerOf_echoing text other _ q

/-- **When typographic marks act like plain ones.** A text and its translation, with a plain mark
for each typographic one, have the same plain marks, the same tokens and the same outcome but for
the text that it repeats, and replacing the marks again changes nothing, exactly if the text has no
two marks for feet side by side, not both of them plain, behind a whole number of pairs of plain
quotes. -/
theorem calculate_translated (text : String) :
    let plain := String.ofList (text.toList.map Token.plainMark)
    (Token.plainMarks text.toList = Token.plainMarks plain.toList ∧
      Token.ofText text = Token.ofText plain ∧
      (calculate text).echoing plain = calculate plain ∧
      Token.plainMarks (Token.plainMarks text.toList) = Token.plainMarks text.toList) ↔
    ¬Token.PairsUp text.toList := by
  intro plain
  have hplain : plain.toList = text.toList.map Token.plainMark := String.toList_ofList
  rw [← Token.plainMarks_map_iff, hplain]
  constructor
  · exact fun h => h.1
  · intro hmarks
    have htokens : Token.ofText text = Token.ofText plain := by
      rw [Token.ofText_eq_scan, Token.ofText_eq_scan, hplain,
        (Token.plainMarks_dropWhile_iff text.toList).mpr hmarks]
    refine ⟨hmarks, htokens, calculate_echoing htokens, ?_⟩
    rw [hmarks]
    exact Token.plainMarks_plainMarks_map text.toList

/-- Two typographic quotes stay two marks for feet, while two plain ones are an inch mark; so `5’’`
has no tokens, and `5''` is five inches. -/
theorem typographicQuotes_differ :
    let text := "5’’"
    let plain := String.ofList (text.toList.map Token.plainMark)
    plain = "5''" ∧ Token.plainMarks text.toList = "5''".toList ∧
      Token.plainMarks plain.toList = "5\"".toList ∧
      Token.plainMarks (Token.plainMarks text.toList) ≠ Token.plainMarks text.toList ∧
      (Token.ofText text).toOption = none ∧ (Token.ofText plain).toOption ≠ none ∧
      (calculate text).echoing plain ≠ calculate plain := by
  decide +kernel

end TapeMeasure
