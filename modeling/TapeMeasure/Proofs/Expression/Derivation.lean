import TapeMeasure.Proofs.Expression.Operand

/-!
# Reading an expression follows the grammar

A list of tokens is read exactly if it can be cut into operands with operators between them, the
expression has these operands, and there is no second way to cut it.

* `readPairs_flatMap`, `exists_cut_of_readPairs`: operators with operands, to the end of the tokens.
* `ofTokens_tokens`, `exists_cut_of_ofTokens`: the same for expressions.
* `cut_unique`: two cuts of the same tokens that write expressions are equal.
* `ofTokens_derivation`.
-/

namespace TapeMeasure

namespace Expression

/-- Pieces start with an operator. -/
theorem startsFrom_pieces (pieces : List Piece) :
    StartsFrom 4 (pieces.flatMap Piece.tokens) := by
  cases pieces with
  | nil => exact startsFrom_nil 4
  | cons piece pieces => exact startsFrom_cons.mpr (Nat.le_refl 4)

theorem flatMap_tokens_cons (piece : Piece) (pieces : List Piece) :
    (piece :: pieces).flatMap Piece.tokens =
      .operator piece.op piece.position :: (piece.operand ++ pieces.flatMap Piece.tokens) := by
  rw [List.flatMap_cons, Piece.tokens, List.cons_append]

/-- Pieces that write operators with operands are read. -/
theorem readPairs_flatMap {pieces : List Piece} {rest : List (Operator × Operand)}
    (h : WritesPairs pieces rest) : readPairs (pieces.flatMap Piece.tokens) = .ok rest := by
  induction h with
  | nil => exact readPairs_nil
  | cons piece writes pairs ih =>
    rename_i pieces operand rest
    have hread := Operand.read_append writes (startsFrom_pieces pieces)
    rw [flatMap_tokens_cons, readPairs_operator, hread]
    simp only [Except.bind, ih]
    rfl

/-- Operators with operands that are read come from pieces. -/
theorem exists_cut_of_readPairs {tokens : List Token} {rest : List (Operator × Operand)}
    (h : readPairs tokens = .ok rest) :
    ∃ pieces, tokens = pieces.flatMap Piece.tokens ∧ WritesPairs pieces rest := by
  induction tokens using readPairs.induct generalizing rest with
  | case1 =>
    rw [readPairs_nil] at h
    cases h
    exact ⟨[], rfl, .nil⟩
  | case2 op position tokens fault hread =>
    rw [readPairs_operator, hread] at h
    cases h
  | case3 op position tokens operand behind hread ih =>
    rw [readPairs_operator, hread] at h
    obtain ⟨pairs, hpairs, hrest⟩ := map_eq_ok_iff.mp h
    cases hrest
    obtain ⟨taken, rfl, hw⟩ := Operand.exists_writes_of_read hread
    obtain ⟨pieces, rfl, hpieces⟩ := ih hpairs
    refine ⟨⟨op, position, taken⟩ :: pieces, ?_, .cons ⟨op, position, taken⟩ hw hpieces⟩
    rw [flatMap_tokens_cons]
  | case4 token tokens hoperator =>
    have hnot : token.isOperator = false := by
      cases token with
      | operator op position => exact absurd rfl (hoperator op position)
      | _ => rfl
    rw [readPairs_of_not_isOperator hnot] at h
    cases h

/-! ## Expressions -/

/-- Tokens that can be cut are read. -/
theorem ofTokens_tokens {c : Cut} {e : Expression} (h : c.Writes e) :
    ofTokens c.tokens = .ok e := by
  have hread := Operand.read_append h.first (startsFrom_pieces c.pieces)
  have hpairs := readPairs_flatMap h.pairs
  obtain ⟨token, tokens, hfirst⟩ := List.exists_cons_of_ne_nil h.first.ne_nil
  rw [Cut.tokens]
  rw [hfirst, List.cons_append] at hread ⊢
  simp only [ofTokens, hread, hpairs, bind, Except.bind]
  rfl

/-- Tokens that are read can be cut. -/
theorem exists_cut_of_ofTokens {tokens : List Token} {e : Expression}
    (h : ofTokens tokens = .ok e) : ∃ c : Cut, c.tokens = tokens ∧ c.Writes e := by
  unfold ofTokens at h
  split at h
  · cases h
  · rename_i token tokens
    obtain ⟨⟨first, behind⟩, hread, h⟩ := bind_eq_ok_iff.mp h
    obtain ⟨rest, hpairs, h⟩ := bind_eq_ok_iff.mp h
    cases h
    obtain ⟨taken, htokens, hw⟩ := Operand.exists_writes_of_read hread
    obtain ⟨pieces, rfl, hpieces⟩ := exists_cut_of_readPairs hpairs
    exact ⟨⟨taken, pieces⟩, htokens.symm, hw, hpieces⟩

/-! ## One cut only -/

/-- Operands in front of the same tokens, with an operator or nothing behind them, are the same. -/
theorem operand_unique {xs ys xs' ys' : List Token} {operand operand' : Operand}
    (hw : Operand.Writes xs operand) (hw' : Operand.Writes ys operand')
    (hxs : StartsFrom 4 xs') (hys : StartsFrom 4 ys') (h : xs ++ xs' = ys ++ ys') :
    xs = ys ∧ xs' = ys' ∧ operand = operand' := by
  have hread := Operand.read_append hw hxs
  rw [h, Operand.read_append hw' hys] at hread
  simp only [Except.ok.injEq, Prod.mk.injEq] at hread
  obtain ⟨rfl, rfl⟩ := hread
  exact ⟨List.append_cancel_right h, rfl, rfl⟩

theorem pieces_unique {pieces : List Piece} {rest : List (Operator × Operand)}
    (h : WritesPairs pieces rest) :
    ∀ {pieces' : List Piece} {rest' : List (Operator × Operand)}, WritesPairs pieces' rest' →
      pieces.flatMap Piece.tokens = pieces'.flatMap Piece.tokens →
      pieces = pieces' ∧ rest = rest' := by
  induction h with
  | nil =>
    intro pieces' rest' h' htokens
    cases h' with
    | nil => exact ⟨rfl, rfl⟩
    | cons piece writes pairs =>
      rw [flatMap_tokens_cons] at htokens
      cases htokens
  | cons piece writes pairs ih =>
    intro pieces' rest' h' htokens
    cases h' with
    | nil =>
      rw [flatMap_tokens_cons] at htokens
      cases htokens
    | cons piece' writes' pairs' =>
      rw [flatMap_tokens_cons, flatMap_tokens_cons, List.cons.injEq,
        Token.operator.injEq] at htokens
      obtain ⟨⟨hop, hposition⟩, hbehind⟩ := htokens
      obtain ⟨hoperand, hpieces, rfl⟩ :=
        operand_unique writes writes' (startsFrom_pieces _) (startsFrom_pieces _) hbehind
      obtain ⟨rfl, rfl⟩ := ih pairs' hpieces
      have hpiece : piece = piece' := by
        cases piece
        cases piece'
        simp only [Piece.mk.injEq]
        exact ⟨hop, hposition, hoperand⟩
      rw [hpiece]
      exact ⟨rfl, rfl⟩

/-- Two cuts of the same tokens that write expressions are equal, and so are the expressions. -/
theorem cut_unique {c c' : Cut} {e e' : Expression} (h : c.Writes e) (h' : c'.Writes e')
    (htokens : c.tokens = c'.tokens) : c = c' ∧ e = e' := by
  obtain ⟨hfirst, hbehind, hoperand⟩ :=
    operand_unique h.first h'.first (startsFrom_pieces _) (startsFrom_pieces _) htokens
  obtain ⟨hpieces, hrest⟩ := pieces_unique h.pairs h'.pairs hbehind
  cases c
  cases c'
  cases e
  cases e'
  simp only [Cut.mk.injEq, Expression.mk.injEq]
  exact ⟨⟨hfirst, hpieces⟩, hoperand, hrest⟩

/-- **Reading is the grammar.** The tokens are read as an expression exactly if they can be cut
into what writes it; there is at most one such cut, whatever the expression; and where there is
none, reading gives a fault. -/
theorem ofTokens_derivation (tokens : List Token) :
    (∀ e : Expression, ofTokens tokens = .ok e ↔ ∃ c : Cut, c.tokens = tokens ∧ c.Writes e) ∧
    (∀ (c c' : Cut) (e e' : Expression), c.tokens = tokens → c'.tokens = tokens →
      c.Writes e → c'.Writes e' → c = c') ∧
    ((∃ fault, ofTokens tokens = .error fault) ↔
      ¬∃ (c : Cut) (e : Expression), c.tokens = tokens ∧ c.Writes e) := by
  refine ⟨?_, ?_, ?_, ?_⟩
  · intro e
    constructor
    · exact exists_cut_of_ofTokens
    · rintro ⟨c, rfl, hw⟩
      exact ofTokens_tokens hw
  · intro c c' e e' hc hc' hw hw'
    exact (cut_unique hw hw' (hc.trans hc'.symm)).1
  · rintro ⟨fault, hfault⟩ ⟨c, e, rfl, hw⟩
    rw [ofTokens_tokens hw] at hfault
    cases hfault
  · intro hnone
    cases hread : ofTokens tokens with
    | error fault => exact ⟨fault, rfl⟩
    | ok e =>
      obtain ⟨c, hc, hw⟩ := exists_cut_of_ofTokens hread
      exact absurd ⟨c, e, hc, hw⟩ hnone

/-- The number three. -/
def literalThree : Literal :=
  ⟨"3", ⟨false, 3, 0⟩, by rfl⟩

/-- One half. -/
def ratioHalf : Ratio :=
  ⟨1, 2, by decide⟩

/-- The tokens of `-3' 1/2 * 1/2%`, cut before the operator. -/
def halfPercentCut : Cut :=
  ⟨[.number literalThree true 0, .feetMark 2, .fraction ratioHalf false 4],
    [⟨.multiply, 8, [.fraction ratioHalf false 10, .percent 13]⟩]⟩

/-- The expression of `-3' 1/2 * 1/2%`. -/
def halfPercentExpression : Expression :=
  ⟨.ofParts true (some literalThree) none (some ratioHalf) false,
    [(.multiply, .ofParts false none none (some ratioHalf) true)]⟩

theorem halfPercentCut_writes : halfPercentCut.Writes halfPercentExpression where
  first := .feet literalThree true 0 2
    (.mk .missing (.given ratioHalf false 4) .missing .missing
      (fun _ literal h => by cases h) (fun h => by cases h))
  pairs := .cons ⟨.multiply, 8, [.fraction ratioHalf false 10, .percent 13]⟩
    (.fraction ratioHalf false 10
      (.mk .missing (.given ratioHalf false 10) .missing (.given 13)
        (fun _ literal h => by cases h) (fun h => by cases h)))
    .nil

/-- The tokens of `-3' 1/2 * 1/2%` are read as what the cut writes, and are cut as they stand. -/
theorem ofTokens_derivation_halfPercent :
    halfPercentCut.Writes halfPercentExpression ∧
      ofTokens halfPercentCut.tokens = .ok halfPercentExpression ∧
      halfPercentCut = ⟨halfPercentCut.tokens.take 3,
        [⟨.multiply, 8, halfPercentCut.tokens.drop 4⟩]⟩ :=
  ⟨halfPercentCut_writes,
    ((ofTokens_derivation halfPercentCut.tokens).1 _).mpr ⟨_, rfl, halfPercentCut_writes⟩,
    (ofTokens_derivation halfPercentCut.tokens).2.1 _ _ _ _ rfl rfl halfPercentCut_writes
      halfPercentCut_writes⟩

end Expression

end TapeMeasure
