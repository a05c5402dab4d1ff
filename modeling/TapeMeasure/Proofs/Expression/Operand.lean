import TapeMeasure.Expression.Grammar
import TapeMeasure.Expression.Parse
import TapeMeasure.Proofs.Except

/-!
# Reading an operand follows the grammar

The parts of an operand come in a fixed order, and each of them may be missing.  The tokens are
ranked in that order; a part is read or found missing according to the grammar as long as the
tokens behind it start with a higher rank.

* `Token.rank`, `StartsFrom`: the order of the parts.
* `readContinuation_append`, `readFraction_append`, `readInchMark_append`,
  `readPercent_append`: what the grammar writes is read again.
* `exists_writes_of_readContinuation` and its companions: what is read is written by the grammar.
* `read_append`, `exists_writes_of_read`: the same for whole operands.
-/

namespace TapeMeasure

/-! ## The order of the parts -/

/-- The place of a token in an operand; operators come behind everything else. -/
def Token.rank : Token → Nat
  | number _ _ _ => 0
  | feetMark _ => 0
  | fraction _ _ _ => 1
  | inchMark _ => 2
  | percent _ => 3
  | operator _ _ => 4

/-- The tokens start with one that comes in place `n` or later. -/
def StartsFrom (n : Nat) (tokens : List Token) : Prop :=
  ∀ token ∈ tokens.head?, n ≤ token.rank

theorem startsFrom_nil (n : Nat) : StartsFrom n [] := by
  intro token h
  simp at h

theorem startsFrom_cons {n : Nat} {token : Token} {tokens : List Token} :
    StartsFrom n (token :: tokens) ↔ n ≤ token.rank := by
  simp [StartsFrom]

theorem StartsFrom.mono {m n : Nat} {tokens : List Token} (h : StartsFrom n tokens)
    (hmn : m ≤ n) : StartsFrom m tokens :=
  fun token ht => Nat.le_trans hmn (h token ht)

theorem StartsFrom.head?_ne_feetMark {tokens : List Token} (h : StartsFrom 1 tokens) (mark : Nat) :
    tokens.head? ≠ some (.feetMark mark) :=
  fun hhead => absurd (h _ hhead) (Nat.not_succ_le_self 0)

namespace Operand

/-! ## The single parts -/

section Parts

variable {taken rest : List Token}

theorem startsFrom_fraction {fraction : Option Ratio} (hw : WritesFraction taken fraction)
    (hrest : StartsFrom 2 rest) : StartsFrom 1 (taken ++ rest) := by
  cases hw with
  | missing => exact hrest.mono (by omega)
  | given ratio negative position => exact startsFrom_cons.mpr (Nat.le_refl 1)

theorem startsFrom_inchMark {marked : Bool} (hw : WritesInchMark taken marked)
    (hrest : StartsFrom 3 rest) : StartsFrom 2 (taken ++ rest) := by
  cases hw with
  | missing => exact hrest.mono (by omega)
  | given position => exact startsFrom_cons.mpr (Nat.le_refl 2)

theorem startsFrom_percent {percent : Bool} (hw : WritesPercent taken percent)
    (hrest : StartsFrom 4 rest) : StartsFrom 3 (taken ++ rest) := by
  cases hw with
  | missing => exact hrest.mono (by omega)
  | given position => exact startsFrom_cons.mpr (Nat.le_refl 3)

/-- Written inches are read behind feet. -/
theorem readContinuation_append {inches : Option Literal} (hw : WritesInches taken inches)
    (hrest : StartsFrom 1 rest) : readContinuation (taken ++ rest) = .ok (inches, rest) := by
  cases hw with
  | missing =>
    rcases rest with _ | ⟨token, rest⟩
    · rfl
    · cases token with
      | number literal negative position =>
        exact absurd (startsFrom_cons.mp hrest) (Nat.not_succ_le_self _)
      | _ => rfl
  | given literal negative position =>
    rcases rest with _ | ⟨token, rest⟩
    · rfl
    · cases token with
      | feetMark position => exact absurd (startsFrom_cons.mp hrest) (Nat.not_succ_le_self _)
      | _ => rfl

theorem exists_writes_of_readContinuation {tokens : List Token} {inches : Option Literal}
    (h : readContinuation tokens = .ok (inches, rest)) :
    ∃ taken, tokens = taken ++ rest ∧ WritesInches taken inches := by
  unfold readContinuation at h
  split at h
  · cases h
  · cases h
    exact ⟨_, rfl, .given _ _ _⟩
  · cases h
    exact ⟨[], rfl, .missing⟩

/-- Inches that show no point may stand before a fraction. -/
theorem any_showsPoint_eq_false_iff {inches : Option Literal} :
    inches.any showsPoint = false ↔ ∀ literal ∈ inches, '.' ∉ literal.value.short := by
  cases inches with
  | none => simp
  | some literal => simp [showsPoint]

/-- A fraction is taken behind inches that show no point. -/
theorem readFraction_cons {inches : Option Literal} {ratio : Ratio}
    (hwhole : WholePart inches (some ratio)) (negative : Bool) (position : Nat)
    (tokens : List Token) :
    readFraction inches (.fraction ratio negative position :: tokens) =
      .ok (some ratio, tokens) := by
  have hpoint := any_showsPoint_eq_false_iff.mpr (hwhole rfl)
  show (if inches.any showsPoint = true then _ else Except.ok (some ratio, tokens)) = _
  rw [hpoint]
  rfl

/-- A written fraction is read behind inches that show no point. -/
theorem readFraction_append {inches : Option Literal} {fraction : Option Ratio}
    (hw : WritesFraction taken fraction) (hwhole : WholePart inches fraction)
    (hrest : StartsFrom 2 rest) : readFraction inches (taken ++ rest) = .ok (fraction, rest) := by
  cases hw with
  | missing =>
    rcases rest with _ | ⟨token, rest⟩
    · rfl
    · cases token with
      | fraction ratio negative position =>
        exact absurd (startsFrom_cons.mp hrest) (Nat.not_succ_le_self _)
      | _ => rfl
  | given ratio negative position => exact readFraction_cons hwhole negative position rest

theorem exists_writes_of_readFraction {inches : Option Literal} {fraction : Option Ratio}
    {tokens : List Token} (h : readFraction inches tokens = .ok (fraction, rest)) :
    ∃ taken, tokens = taken ++ rest ∧ WritesFraction taken fraction ∧
      WholePart inches fraction := by
  unfold readFraction at h
  split at h
  · split at h
    · cases h
    · rename_i hpoint
      cases h
      refine ⟨_, rfl, .given _ _ _, ?_⟩
      intro _
      exact any_showsPoint_eq_false_iff.mp (by simpa using hpoint)
  · cases h
    exact ⟨[], rfl, .missing, fun hsome => absurd hsome Bool.false_ne_true⟩

theorem readInchMark_append {hasInches marked : Bool} (hw : WritesInchMark taken marked)
    (hmarked : marked = true → hasInches = true) (hrest : StartsFrom 3 rest) :
    readInchMark hasInches (taken ++ rest) = .ok rest := by
  cases hw with
  | missing =>
    rcases rest with _ | ⟨token, rest⟩
    · rfl
    · cases token with
      | inchMark position => exact absurd (startsFrom_cons.mp hrest) (Nat.not_succ_le_self _)
      | _ => rfl
  | given position => exact if_pos (hmarked rfl)

theorem exists_writes_of_readInchMark {hasInches : Bool} {tokens : List Token}
    (h : readInchMark hasInches tokens = .ok rest) :
    ∃ taken marked, tokens = taken ++ rest ∧ WritesInchMark taken marked ∧
      (marked = true → hasInches = true) := by
  unfold readInchMark at h
  split at h
  · split at h
    · rename_i hinches
      cases h
      exact ⟨_, true, rfl, .given _, fun _ => hinches⟩
    · cases h
  · cases h
    exact ⟨[], false, rfl, .missing, fun hfalse => absurd hfalse Bool.false_ne_true⟩

theorem readPercent_append {percent : Bool} (hw : WritesPercent taken percent)
    (hrest : StartsFrom 4 rest) : readPercent (taken ++ rest) = (percent, rest) := by
  cases hw with
  | missing =>
    rcases rest with _ | ⟨token, rest⟩
    · rfl
    · cases token with
      | percent position => exact absurd (startsFrom_cons.mp hrest) (Nat.not_succ_le_self _)
      | _ => rfl
  | given position => rfl

theorem exists_writes_of_readPercent (tokens : List Token) :
    ∃ taken, tokens = taken ++ (readPercent tokens).2 ∧
      WritesPercent taken (readPercent tokens).1 := by
  unfold readPercent
  split
  · exact ⟨_, rfl, .given _⟩
  · exact ⟨[], rfl, .missing⟩

end Parts

/-! ## Whole operands -/

/-- The parts behind the inches are read in order. -/
theorem readRest_append {tf tm tp rest : List Token} {negative : Bool}
    {feet inches : Option Literal} {fraction : Option Ratio} {marked percent : Bool}
    (hf : WritesFraction tf fraction) (hm : WritesInchMark tm marked)
    (hp : WritesPercent tp percent) (hwhole : WholePart inches fraction)
    (hmarked : marked = true → inches.isSome = true ∨ fraction.isSome = true)
    (hrest : StartsFrom 4 rest) :
    readRest negative feet inches (tf ++ (tm ++ (tp ++ rest))) =
      .ok (ofParts negative feet inches fraction percent, rest) := by
  have hpercent := startsFrom_percent hp hrest
  have hmark := startsFrom_inchMark hm hpercent
  have hfirst := readFraction_append hf hwhole hmark
  have hsecond : readInchMark (inches.isSome || fraction.isSome) (tm ++ (tp ++ rest)) =
      .ok (tp ++ rest) :=
    readInchMark_append hm (fun h => Bool.or_eq_true_iff.mpr (hmarked h)) hpercent
  have hthird := readPercent_append hp hrest
  unfold readRest
  rw [hfirst]
  simp only [bind, Except.bind, hsecond, hthird]
  rfl

/-- What is read behind the inches: a fraction or none, and then the two marks. -/
theorem exists_writes_of_readRest {negative : Bool} {feet inches : Option Literal}
    {tokens rest : List Token} {operand : Operand}
    (h : readRest negative feet inches tokens = .ok (operand, rest)) :
    ∃ tm tp fraction marked percent,
      readFraction inches tokens = .ok (fraction, tm ++ (tp ++ rest)) ∧
      WritesInchMark tm marked ∧ WritesPercent tp percent ∧
      (marked = true → inches.isSome = true ∨ fraction.isSome = true) ∧
      operand = ofParts negative feet inches fraction percent := by
  unfold readRest at h
  obtain ⟨⟨fraction, behind⟩, hf, h⟩ := bind_eq_ok_iff.mp h
  obtain ⟨afterMark, hm, h⟩ := bind_eq_ok_iff.mp h
  have hresult : (ofParts negative feet inches fraction (readPercent afterMark).1,
      (readPercent afterMark).2) = (operand, rest) := Except.ok.inj h
  obtain ⟨rfl, rfl⟩ := Prod.mk.inj hresult
  obtain ⟨tm, marked, rfl, hwm, hmarked⟩ := exists_writes_of_readInchMark hm
  obtain ⟨tp, htp, hwp⟩ := exists_writes_of_readPercent afterMark
  refine ⟨tm, tp, fraction, marked, _, ?_, hwm, hwp,
    fun h => Bool.or_eq_true_iff.mp (hmarked h), rfl⟩
  rw [hf, ← htp]

/-- The parts of an operand, with the tokens that write each of them. -/
theorem exists_parts {tokens : List Token} {inches : Option Literal} {fraction : Option Ratio}
    {percent : Bool} (h : WritesParts tokens inches fraction percent) :
    ∃ ti tf tm tp marked, tokens = ti ++ (tf ++ (tm ++ tp)) ∧ WritesInches ti inches ∧
      WritesFraction tf fraction ∧ WritesInchMark tm marked ∧ WritesPercent tp percent ∧
      WholePart inches fraction ∧
      (marked = true → inches.isSome = true ∨ fraction.isSome = true) := by
  cases h with
  | mk hi hf hm hp hwhole hmarked => exact ⟨_, _, _, _, _, rfl, hi, hf, hm, hp, hwhole, hmarked⟩

/-- A number without a feet mark is the inches. -/
theorem read_number {tokens : List Token} (literal : Literal) (negative : Bool) (position : Nat)
    (h : ∀ mark, tokens.head? ≠ some (.feetMark mark)) :
    read (.number literal negative position :: tokens) =
      readRest negative none (some literal) tokens := by
  rcases tokens with _ | ⟨token, tokens⟩
  · rfl
  · cases token with
    | feetMark mark => exact absurd rfl (h mark)
    | _ => rfl

/-- What the grammar writes is read, up to the next operator. -/
theorem read_append {tokens rest : List Token} {operand : Operand} (hw : Writes tokens operand)
    (hrest : StartsFrom 4 rest) : read (tokens ++ rest) = .ok (operand, rest) := by
  cases hw with
  | feet literal negative position mark parts =>
    obtain ⟨ti, tf, tm, tp, marked, rfl, hi, hf, hm, hp, hwhole, hmarked⟩ := exists_parts parts
    have hfraction := startsFrom_fraction hf (startsFrom_inchMark hm (startsFrom_percent hp hrest))
    simp only [List.cons_append, List.append_assoc, read, readContinuation_append hi hfraction,
      bind, Except.bind]
    exact readRest_append hf hm hp hwhole hmarked hrest
  | inches literal negative position parts =>
    obtain ⟨ti, tf, tm, tp, marked, htokens, hi, hf, hm, hp, hwhole, hmarked⟩ :=
      exists_parts parts
    have hfraction := startsFrom_fraction hf (startsFrom_inchMark hm (startsFrom_percent hp hrest))
    cases hi
    simp only [List.cons_append, List.nil_append, List.cons.injEq] at htokens
    obtain ⟨-, rfl⟩ := htokens
    simp only [List.cons_append, List.append_assoc]
    rw [read_number literal negative position hfraction.head?_ne_feetMark]
    exact readRest_append hf hm hp hwhole hmarked hrest
  | fraction ratio negative position parts =>
    obtain ⟨ti, tf, tm, tp, marked, htokens, hi, hf, hm, hp, hwhole, hmarked⟩ :=
      exists_parts parts
    cases hi
    rw [List.cons_append, read, ← List.cons_append, htokens, List.nil_append, List.append_assoc,
      List.append_assoc]
    exact readRest_append hf hm hp hwhole hmarked hrest

/-- What is read is written by the grammar. -/
theorem exists_writes_of_read {tokens rest : List Token} {operand : Operand}
    (h : read tokens = .ok (operand, rest)) :
    ∃ taken, tokens = taken ++ rest ∧ Writes taken operand := by
  unfold read at h
  split at h
  · cases h
  · cases h
  · -- a number with a feet mark, and perhaps inches behind it
    rename_i literal negative position mark behind
    obtain ⟨⟨inches, afterInches⟩, hc, hrest⟩ := bind_eq_ok_iff.mp h
    obtain ⟨ti, rfl, hi⟩ := exists_writes_of_readContinuation hc
    obtain ⟨tm, tp, fraction, marked, percent, hf, hm, hp, hmarked, rfl⟩ :=
      exists_writes_of_readRest hrest
    obtain ⟨tf, rfl, hf, hwhole⟩ := exists_writes_of_readFraction hf
    refine ⟨.number literal negative position :: .feetMark mark :: (ti ++ (tf ++ (tm ++ tp))),
      ?_, .feet literal negative position mark (.mk hi hf hm hp hwhole hmarked)⟩
    simp only [List.cons_append, List.append_assoc]
  · -- a number without one
    rename_i literal negative position behind _
    obtain ⟨tm, tp, fraction, marked, percent, hf, hm, hp, hmarked, rfl⟩ :=
      exists_writes_of_readRest h
    obtain ⟨tf, rfl, hf, hwhole⟩ := exists_writes_of_readFraction hf
    refine ⟨.number literal negative position :: (tf ++ (tm ++ tp)), ?_,
      .inches literal negative position
        (.mk (.given literal negative position) hf hm hp hwhole hmarked)⟩
    simp only [List.cons_append, List.append_assoc]
  · -- a fraction, which is read once more with nothing before it
    rename_i ratio negative position behind
    obtain ⟨tm, tp, fraction, marked, percent, hf, hm, hp, hmarked, rfl⟩ :=
      exists_writes_of_readRest h
    cases hf
    refine ⟨.fraction ratio negative position :: (tm ++ tp), ?_,
      .fraction ratio negative position
        (.mk .missing (.given ratio negative position) hm hp ?_ hmarked)⟩
    · simp only [List.cons_append, List.append_assoc]
    · intro _ literal hliteral
      cases hliteral
  · cases h

end Operand

end TapeMeasure
