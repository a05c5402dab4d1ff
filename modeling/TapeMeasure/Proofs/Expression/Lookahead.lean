import TapeMeasure.Proofs.Expression.Operand
import TapeMeasure.Token.Spelling

/-!
# Reading one token ahead

To read an operand, no more than one token behind it is looked at, and a fault is found at the first
token that cannot go on.  So neither what is read nor a fault depends on the tokens behind.

* `Operand.LooksAhead`, `LooksAhead.bind`: readers that look at one token more than they take.
* `Operand.looksAhead_read`: the reader of operands is one of them.
* `Expression.blamed`: the token that a fault points at.
* `Operand.exists_token_of_read_error`: where the fault of an operand is found.
* `Operand.blamed_eq_of_read`: behind an operand that has been read, the next token is blamed.
-/

namespace TapeMeasure

/-- The token that a fault points at: the one where it is found, or the number before it if that is
a second number of feet, which only its feet mark tells. -/
def Expression.blamed (front : List Token) (token : Token) : Token :=
  match token, front.reverse with
  | .feetMark _, .number literal negative position :: .feetMark _ :: _ =>
    .number literal negative position
  | _, _ => token

namespace Operand

open Expression (Fault blamed)

section

variable {α β : Type} {tokens rest rest' : List Token}

/-- A reader takes tokens from the front, and looks at the next one but not at those behind it. -/
def LooksAhead (reader : List Token → Except Fault (α × List Token)) : Prop :=
  ∀ tokens x rest, reader tokens = .ok (x, rest) →
    ∃ taken, tokens = taken ++ rest ∧
      ∀ rest' : List Token, rest'.head? = rest.head? → reader (taken ++ rest') = .ok (x, rest')

/-- One reader behind another looks no further than the second. -/
theorem LooksAhead.bind {first : List Token → Except Fault (α × List Token)}
    {next : α → List Token → Except Fault (β × List Token)} (hfirst : LooksAhead first)
    (hnext : ∀ x, LooksAhead (next x)) :
    LooksAhead fun tokens => (first tokens).bind fun read => next read.1 read.2 := by
  intro tokens y rest h
  obtain ⟨⟨x, behind⟩, hx, hy⟩ := bind_eq_ok_iff.mp h
  obtain ⟨taken, rfl, htaken⟩ := hfirst _ _ _ hx
  obtain ⟨taken', rfl, htaken'⟩ := hnext x _ _ _ hy
  refine ⟨taken ++ taken', (List.append_assoc _ _ _).symm, fun rest' hhead => ?_⟩
  have hbehind : (taken' ++ rest').head? = (taken' ++ rest).head? := by
    rw [List.head?_append, List.head?_append, hhead]
  refine bind_eq_ok_iff.mpr ⟨(x, taken' ++ rest'), ?_, htaken' rest' hhead⟩
  rw [List.append_assoc]
  exact htaken _ hbehind

theorem looksAhead_pure (x : α) : LooksAhead fun tokens => .ok (x, tokens) := by
  intro tokens y rest h
  cases h
  exact ⟨[], rfl, fun rest' _ => rfl⟩

/-! ## The parts of an operand -/

/-- Tokens with the same head are both missing, or start with the same token. -/
theorem cases_of_head?_eq (h : rest'.head? = rest.head?) :
    (rest' = [] ∧ rest = []) ∨
      ∃ token after' after, rest' = token :: after' ∧ rest = token :: after := by
  cases rest with
  | nil => exact Or.inl ⟨List.head?_eq_none_iff.mp h, rfl⟩
  | cons token after =>
    obtain ⟨after', hrest'⟩ := List.head?_eq_some_iff.mp h
    exact Or.inr ⟨token, after', after, hrest', rfl⟩

theorem looksAhead_readContinuation : LooksAhead readContinuation := by
  intro tokens inches rest h
  obtain ⟨taken, rfl, hw⟩ := exists_writes_of_readContinuation h
  refine ⟨taken, rfl, fun rest' hhead => ?_⟩
  rcases cases_of_head?_eq hhead with ⟨rfl, rfl⟩ | ⟨token, after', after, rfl, rfl⟩
  · exact h
  · cases hw with
    | missing =>
      cases token with
      | number literal negative position =>
        -- a number would have been taken, or is a second number of feet
        rcases after with _ | ⟨second, after⟩
        · cases h
        · cases second <;> cases h
      | _ => rfl
    | given literal negative position =>
      cases token with
      | feetMark mark => cases h
      | _ => rfl

theorem looksAhead_readFraction (inches : Option Literal) : LooksAhead (readFraction inches) := by
  intro tokens fraction rest h
  obtain ⟨taken, rfl, hw, hwhole⟩ := exists_writes_of_readFraction h
  refine ⟨taken, rfl, fun rest' hhead => ?_⟩
  cases hw with
  | given ratio negative position => exact readFraction_cons hwhole negative position rest'
  | missing =>
    rcases cases_of_head?_eq hhead with ⟨rfl, rfl⟩ | ⟨token, after', after, rfl, rfl⟩
    · exact h
    · cases token with
      | fraction ratio negative position =>
        rw [List.nil_append, readFraction] at h
        split at h <;> cases h
      | _ => rfl

theorem looksAhead_readInchMark (hasInches : Bool) :
    LooksAhead fun tokens => (readInchMark hasInches tokens).map (Prod.mk ()) := by
  intro tokens x rest h
  obtain ⟨behind, hrest, hpair⟩ := map_eq_ok_iff.mp h
  cases hpair
  obtain ⟨taken, marked, rfl, hw, hmarked⟩ := exists_writes_of_readInchMark hrest
  refine ⟨taken, rfl, fun rest' hhead => map_eq_ok_iff.mpr ⟨rest', ?_, rfl⟩⟩
  cases hw with
  | given position => exact if_pos (hmarked rfl)
  | missing =>
    rcases cases_of_head?_eq hhead with ⟨rfl, rfl⟩ | ⟨token, after', after, rfl, rfl⟩
    · exact hrest
    · cases token with
      | inchMark position =>
        rw [List.nil_append, readInchMark] at hrest
        split at hrest <;> cases hrest
      | _ => rfl

theorem looksAhead_readPercent : LooksAhead fun tokens => .ok (readPercent tokens) := by
  intro tokens percent rest h
  obtain ⟨taken, htokens, hw⟩ := exists_writes_of_readPercent tokens
  rw [Except.ok.inj h] at htokens hw
  refine ⟨taken, htokens, fun rest' hhead => congrArg Except.ok ?_⟩
  cases hw with
  | given position => rfl
  | missing =>
    rcases cases_of_head?_eq hhead with ⟨rfl, rfl⟩ | ⟨token, after', after, rfl, rfl⟩
    · rfl
    · cases token with
      | percent position =>
        rw [htokens] at h
        cases h
      | _ => rfl

/-- The parts behind the inches, read by one reader after another. -/
theorem readRest_eq (negative : Bool) (feet inches : Option Literal) :
    readRest negative feet inches = fun tokens =>
      (readFraction inches tokens).bind fun fraction =>
        ((readInchMark (inches.isSome || fraction.1.isSome) fraction.2).map (Prod.mk ())).bind
          fun mark => (Except.ok (readPercent mark.2)).bind fun percent =>
            .ok (ofParts negative feet inches fraction.1 percent.1, percent.2) := by
  funext tokens
  rw [readRest]
  cases readFraction inches tokens with
  | error fault => rfl
  | ok fraction =>
    show Except.bind (readInchMark (inches.isSome || fraction.1.isSome) fraction.2) _ =
      Except.bind (Except.map _ (readInchMark (inches.isSome || fraction.1.isSome) fraction.2)) _
    cases readInchMark (inches.isSome || fraction.1.isSome) fraction.2 with
    | error fault => rfl
    | ok behind => rfl

theorem looksAhead_readRest (negative : Bool) (feet inches : Option Literal) :
    LooksAhead (readRest negative feet inches) := by
  rw [readRest_eq]
  exact (looksAhead_readFraction inches).bind fun fraction =>
    (looksAhead_readInchMark (inches.isSome || fraction.isSome)).bind fun _ =>
      looksAhead_readPercent.bind fun percent =>
        looksAhead_pure (ofParts negative feet inches fraction percent)

end

/-! ## Whole operands -/

/-- The reader of operands looks at one token more than it takes. -/
theorem looksAhead_read : LooksAhead read := by
  intro tokens operand rest h
  unfold read at h
  split at h
  · cases h
  · cases h
  · rename_i feet negative position mark behind
    have hparts := looksAhead_readContinuation.bind fun inches =>
      looksAhead_readRest negative (some feet) inches
    obtain ⟨taken, rfl, htaken⟩ := hparts _ _ _ h
    exact ⟨.number feet negative position :: .feetMark mark :: taken, rfl, htaken⟩
  · rename_i inches negative position behind hinches
    obtain ⟨taken, rfl, htaken⟩ := looksAhead_readRest _ _ _ _ _ _ h
    refine ⟨.number inches negative position :: taken, rfl, fun rest' hhead => ?_⟩
    have hbehind : (taken ++ rest').head? = (taken ++ rest).head? := by
      rw [List.head?_append, List.head?_append, hhead]
    rw [List.cons_append, read_number inches negative position, htaken rest' hhead]
    intro mark hmark
    rw [hbehind] at hmark
    obtain ⟨after, hafter⟩ := List.head?_eq_some_iff.mp hmark
    exact hinches mark after hafter
  · rename_i ratio negative position behind
    have hlength := length_readRest_lt_of_fraction h
    obtain ⟨taken, htokens, htaken⟩ := looksAhead_readRest _ _ _ _ _ _ h
    rcases taken with _ | ⟨first, taken⟩
    · rw [← List.nil_append rest, ← htokens, List.length_cons] at hlength
      omega
    · obtain ⟨rfl, rfl⟩ := List.cons.inj htokens
      exact ⟨.fraction ratio negative position :: taken, rfl, htaken⟩
  · cases h

/-! ## Faults -/

section

variable {negative : Bool} {feet inches : Option Literal} {tokens : List Token} {fault : Fault}
  {token : Token}

theorem blamed_of_rank (h : 1 ≤ token.rank) (front : List Token) : blamed front token = token := by
  cases token with
  | feetMark mark => exact absurd h (Nat.not_succ_le_self 0)
  | _ => rfl

theorem exists_of_readContinuation_error (h : readContinuation tokens = .error fault) :
    ∃ literal sign position mark after,
      tokens = .number literal sign position :: .feetMark mark :: after ∧
        fault = ⟨.feetTwice, some position⟩ := by
  unfold readContinuation at h
  split at h
  · cases h
    exact ⟨_, _, _, _, _, rfl, rfl⟩
  · cases h
  · cases h

theorem exists_of_readFraction_error (h : readFraction inches tokens = .error fault) :
    inches.any showsPoint = true ∧ ∃ ratio sign position after,
      tokens = .fraction ratio sign position :: after ∧
        fault = ⟨.mixedNumberNotWhole, some position⟩ := by
  unfold readFraction at h
  split at h
  · split at h <;> cases h
    exact ⟨‹_›, _, _, _, _, rfl, rfl⟩
  · cases h

theorem exists_of_readInchMark_error {hasInches : Bool}
    (h : readInchMark hasInches tokens = .error fault) :
    hasInches = false ∧ ∃ position after,
      tokens = .inchMark position :: after ∧ fault = ⟨.inchMarkWithoutInches, some position⟩ := by
  unfold readInchMark at h
  split at h
  · split at h <;> cases h
    exact ⟨eq_false_of_ne_true ‹_›, _, _, rfl, rfl⟩
  · cases h

/-- The parts behind the inches have their fault at the first token: a fraction behind inches with a
point, or an inch mark behind no inches. -/
theorem exists_of_readRest_error (h : readRest negative feet inches tokens = .error fault) :
    ∃ token after, tokens = token :: after ∧ fault.position = some token.position ∧
      1 ≤ token.rank ∧ (inches = none → 2 ≤ token.rank) ∧
      ∀ after', readRest negative feet inches (token :: after') = .error fault := by
  rw [readRest_eq] at h ⊢
  rcases bind_eq_error_iff.mp h with hfraction | ⟨⟨fraction, behind⟩, hfraction, h⟩
  · obtain ⟨hpoint, ratio, sign, position, after, rfl, rfl⟩ :=
      exists_of_readFraction_error hfraction
    refine ⟨_, after, rfl, rfl, Nat.le_refl 1, ?_, fun after' => ?_⟩
    · rintro rfl
      cases hpoint
    · show Except.bind (if inches.any showsPoint = true then _ else _) _ = _
      rw [if_pos hpoint]
      rfl
  · rcases bind_eq_error_iff.mp h with hmark | ⟨mark, -, h⟩
    · obtain ⟨hnone, position, after, rfl, rfl⟩ :=
        exists_of_readInchMark_error (map_eq_error_iff.mp hmark)
      rw [Bool.or_eq_false_iff, Option.isSome_eq_false_iff, Option.isSome_eq_false_iff,
        Option.isNone_iff_eq_none, Option.isNone_iff_eq_none] at hnone
      obtain ⟨rfl, rfl⟩ := hnone
      obtain ⟨taken, rfl, hw, -⟩ := exists_writes_of_readFraction hfraction
      cases hw
      exact ⟨_, after, rfl, rfl, Nat.le_succ 1, fun _ => Nat.le_refl 2, fun after' => rfl⟩
    · cases h

/-- Inches are parts of an operand on their own. -/
theorem WritesInches.writesParts (h : WritesInches tokens inches) :
    WritesParts tokens inches none false := by
  have hparts := WritesParts.mk h .missing .missing .missing (fun h => nomatch h)
    (fun h => nomatch h)
  rwa [List.append_nil, List.append_nil, List.append_nil] at hparts

/-- A fault of an operand is found at the first token that cannot go on, whatever stands behind it.
What was read before is an operand, or nothing. -/
theorem exists_token_of_read_error (h : read tokens = .error fault) (hne : tokens ≠ []) :
    ∃ front token after, tokens = front ++ token :: after ∧
      (front = [] ∨ ∃ operand, Writes front operand) ∧
      fault.position = some (blamed front token).position ∧
      ∀ after', read (front ++ token :: after') = .error fault := by
  obtain ⟨first, behind, rfl⟩ := List.exists_cons_of_ne_nil hne
  cases first with
  | operator | feetMark | inchMark | percent =>
    cases h
    exact ⟨[], _, behind, rfl, Or.inl rfl, rfl, fun after' => rfl⟩
  | fraction ratio negative position =>
    obtain ⟨token, after, htokens, -, -, hrank, -⟩ := exists_of_readRest_error h
    obtain ⟨rfl, -⟩ := List.cons.inj htokens
    exact absurd (hrank rfl) (Nat.not_succ_le_self 1)
  | number literal negative position =>
    by_cases hfeet : ∃ mark tokens, behind = .feetMark mark :: tokens
    · obtain ⟨mark, behind, rfl⟩ := hfeet
      rcases bind_eq_error_iff.mp h with hinches | ⟨⟨inches, rest⟩, hinches, hrest⟩
      · -- the number is read before its feet mark is seen
        obtain ⟨second, sign, start, mark', after, rfl, rfl⟩ :=
          exists_of_readContinuation_error hinches
        exact ⟨[.number literal negative position, .feetMark mark, .number second sign start],
          .feetMark mark', after, rfl,
          Or.inr ⟨_, .feet literal negative position mark
            (WritesInches.given second sign start).writesParts⟩, rfl, fun after' => rfl⟩
      · obtain ⟨taken, rfl, hw⟩ := exists_writes_of_readContinuation hinches
        obtain ⟨token, after, rfl, hposition, hrank, -, hstays⟩ := exists_of_readRest_error hrest
        refine ⟨.number literal negative position :: .feetMark mark :: taken, token, after, rfl,
          Or.inr ⟨_, .feet literal negative position mark hw.writesParts⟩, ?_, fun after' => ?_⟩
        · rw [blamed_of_rank hrank]
          exact hposition
        · have hagain :
              readContinuation (taken ++ token :: after') = .ok (inches, token :: after') :=
            readContinuation_append hw (startsFrom_cons.mpr hrank)
          exact bind_eq_error_iff.mpr (Or.inr ⟨_, hagain, hstays after'⟩)
    · have hinches : ∀ mark, behind.head? ≠ some (.feetMark mark) := fun mark hmark =>
        hfeet ⟨mark, List.head?_eq_some_iff.mp hmark⟩
      rw [read_number literal negative position hinches] at h
      obtain ⟨token, after, rfl, hposition, hrank, -, hstays⟩ := exists_of_readRest_error h
      refine ⟨[.number literal negative position], token, after, rfl,
        Or.inr ⟨_, .inches literal negative position
          (WritesInches.given literal negative position).writesParts⟩, ?_, fun after' => ?_⟩
      · rw [blamed_of_rank hrank]
        exact hposition
      · rw [List.singleton_append, read_number literal negative position
          (startsFrom_cons.mpr hrank).head?_ne_feetMark]
        exact hstays after'

/-- Behind an operand that has been read, the next token is blamed itself. -/
theorem blamed_eq_of_read {taken after : List Token} {operand : Operand}
    (hw : Writes taken operand)
    (h : read (taken ++ token :: after) = .ok (operand, token :: after)) :
    blamed taken token = token := by
  cases token with
  | feetMark mark =>
    cases hw with
    | feet literal negative position mark' parts =>
      obtain ⟨ti, tf, tm, tp, marked, rfl, hi, hf, hm, hp, -, -⟩ := exists_parts parts
      -- the operand ends with its second number only if it has nothing else behind its feet
      cases hi <;> cases hf <;> cases hm <;> cases hp <;> first | rfl | cases h
    | inches literal negative position parts =>
      obtain ⟨ti, tf, tm, tp, marked, htokens, hi, hf, hm, hp, -, -⟩ := exists_parts parts
      cases hi
      cases hf <;> cases hm <;> cases hp <;> cases htokens <;> rfl
    | fraction ratio negative position parts =>
      obtain ⟨ti, tf, tm, tp, marked, htokens, hi, hf, hm, hp, -, -⟩ := exists_parts parts
      cases hi
      cases hf
      cases hm <;> cases hp <;> cases htokens <;> rfl
  | _ => rfl

end

end Operand

end TapeMeasure
