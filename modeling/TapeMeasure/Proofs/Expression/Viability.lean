import TapeMeasure.Problem
import TapeMeasure.Proofs.Expression.Join
import TapeMeasure.Proofs.Expression.Lookahead

/-!
# Where the fault of an expression is found

Tokens are viable if some further tokens make an expression of them.  Reading goes on as long as the
tokens read so far are viable, so a fault is found at the first token that no expression can go on
with; and if there is no such token, the tokens end where an operand is missing.

* `Viable`: tokens that an expression can start with.
* `StopsAt`: the first token that is not viable, and the tokens before it.
* `EndsEarly`: no tokens, or an expression with an operator behind it.
* `ofTokens_append_operator_eq`: behind an operator, an expression is read like any other.
* `StuckAt`, `exists_stuckAt_or_endsEarly`: the two ways for a fault to be found.
* `ofTokens_fault`: the position of the fault.
-/

namespace TapeMeasure

namespace Expression

variable {tokens front : List Token} {token : Token} {e : Expression} {fault : Fault}

/-! ## Viable tokens -/

/-- Tokens that some expression starts with. -/
def Viable (tokens : List Token) : Prop :=
  ∃ more e, ofTokens (tokens ++ more) = .ok e

/-- The shortest prefix that is not viable, its last token apart. -/
structure StopsAt (tokens front : List Token) (token : Token) : Prop where
  isFront : front ++ [token] <+: tokens
  notViable : ¬Viable (front ++ [token])
  shortest : ∀ p : List Token, p <+: tokens → ¬Viable p → front.length < p.length

/-- Tokens that end where an operand is missing. -/
def EndsEarly (tokens : List Token) : Prop :=
  tokens = [] ∨ ∃ before op position e,
    tokens = before ++ [.operator op position] ∧ ofTokens before = .ok e

theorem Viable.of_isPrefix (h : Viable tokens) (hfront : front <+: tokens) : Viable front := by
  obtain ⟨more, e, he⟩ := h
  obtain ⟨between, rfl⟩ := hfront
  exact ⟨between ++ more, e, by rwa [List.append_assoc] at he⟩

theorem viable_of_ofTokens (h : ofTokens tokens = .ok e) : Viable tokens :=
  ⟨[], e, by rwa [List.append_nil]⟩

theorem viable_of_writes {operand : Operand} (h : Operand.Writes tokens operand) :
    Viable tokens :=
  viable_of_ofTokens (ofTokens_of_writes h)

/-- An operand can always be written. -/
theorem writes_literalThree :
    Operand.Writes [.number literalThree false 0]
      (.ofParts false none (some literalThree) none false) :=
  .inches literalThree false 0 (Operand.WritesInches.given literalThree false 0).writesParts

/-- Where an operand is missing, it can be written. -/
theorem EndsEarly.viable (h : EndsEarly tokens) : Viable tokens := by
  rcases h with rfl | ⟨before, op, position, e, rfl, he⟩
  · exact (viable_of_writes writes_literalThree).of_isPrefix List.nil_prefix
  · have hread := ofTokens_append_operator he writes_literalThree op position
    exact ⟨[.number literalThree false 0], _, by rwa [List.append_assoc]⟩

/-! ## Reading on -/

theorem ofTokens_of_read_ok {operand : Operand} {behind : List Token}
    (h : Operand.read tokens = .ok (operand, behind)) :
    ofTokens tokens = (readPairs behind).map (Expression.mk operand) := by
  cases tokens with
  | nil => cases h
  | cons token tokens =>
    rw [ofTokens, h]
    show Except.bind (readPairs behind) _ = _
    cases readPairs behind <;> rfl

theorem ofTokens_of_read_error (hne : tokens ≠ []) (h : Operand.read tokens = .error fault) :
    ofTokens tokens = .error fault := by
  obtain ⟨token, tokens, rfl⟩ := List.exists_cons_of_ne_nil hne
  rw [ofTokens, h]
  rfl

/-- The expression with an operand and an operator before it. -/
def precededBy (operand : Operand) (op : Operator) (e : Expression) : Expression :=
  ⟨operand, (op, e.first) :: e.rest⟩

/-- Behind an operand and an operator, an expression is read like any other. -/
theorem ofTokens_append_operator_eq {taken : List Token} {operand : Operand}
    (hw : Operand.Writes taken operand) (op : Operator) (position : Nat) (hne : tokens ≠ []) :
    ofTokens (taken ++ .operator op position :: tokens) =
      (ofTokens tokens).map (precededBy operand op) := by
  have hread := Operand.read_append hw (startsFrom_cons.mpr (Nat.le_refl 4) :
    StartsFrom 4 (.operator op position :: tokens))
  rw [ofTokens_of_read_ok hread, readPairs_operator]
  cases hnext : Operand.read tokens with
  | error fault =>
    rw [ofTokens_of_read_error hne hnext]
    rfl
  | ok next =>
    rw [ofTokens_of_read_ok hnext]
    show Except.map _ (Except.map _ (readPairs next.2)) = _
    cases readPairs next.2 <;> rfl

/-! ## Faults -/

/-- Reading is stuck at a token: what stands before it is viable, and the fault is the same whatever
stands behind it. -/
structure StuckAt (front : List Token) (token : Token) (fault : Fault) : Prop where
  viable : Viable front
  stays : ∀ after, ofTokens (front ++ token :: after) = .error fault
  position_eq : fault.position = some (blamed front token).position

theorem StuckAt.notViable (h : StuckAt front token fault) : ¬Viable (front ++ [token]) := by
  rintro ⟨more, e, he⟩
  rw [List.append_assoc, List.singleton_append, h.stays] at he
  cases he

/-- The token that is blamed stands behind the last operator. -/
theorem blamed_append_operator (taken : List Token) (op : Operator) (position : Nat) :
    blamed (taken ++ .operator op position :: front) token = blamed front token := by
  cases token with
  | feetMark mark =>
    have hreverse : (taken ++ .operator op position :: front).reverse =
        front.reverse ++ .operator op position :: taken.reverse := by simp
    unfold blamed
    rw [hreverse]
    rcases front.reverse with _ | ⟨last, _ | ⟨second, before⟩⟩
    · rfl
    · cases last <;> rfl
    · cases last <;> cases second <;> rfl
  | _ => rfl

section

variable {taken : List Token} {operand : Operand} (hw : Operand.Writes taken operand)
  (op : Operator) (position : Nat)

include hw

/-- Reading gets stuck behind an operand and an operator as it does without them. -/
theorem StuckAt.behind_operator (h : StuckAt front token fault) :
    StuckAt (taken ++ .operator op position :: front) token fault where
  viable := by
    obtain ⟨more, e, he⟩ := h.viable
    have hne : front ++ more ≠ [] := by
      intro hnil
      rw [hnil] at he
      cases he
    refine ⟨more, precededBy operand op e, ?_⟩
    rw [List.append_assoc, List.cons_append, ofTokens_append_operator_eq hw op position hne, he]
    rfl
  stays after := by
    have hne : front ++ token :: after ≠ [] := List.append_ne_nil_of_right_ne_nil _ (by simp)
    rw [List.append_assoc, List.cons_append, ofTokens_append_operator_eq hw op position hne,
      h.stays]
    rfl
  position_eq := by
    rw [blamed_append_operator]
    exact h.position_eq

theorem EndsEarly.behind_operator (h : EndsEarly tokens) :
    EndsEarly (taken ++ .operator op position :: tokens) := by
  rcases h with rfl | ⟨before, op', position', e, rfl, he⟩
  · exact Or.inr ⟨taken, op, position, _, rfl, ofTokens_of_writes hw⟩
  · have hne : before ≠ [] := by
      rintro rfl
      cases he
    refine Or.inr ⟨taken ++ .operator op position :: before, op', position',
      precededBy operand op e, by rw [List.append_assoc, List.cons_append], ?_⟩
    rw [ofTokens_append_operator_eq hw op position hne, he]
    rfl

end

/-- Where an operand has a fault, reading is stuck. -/
theorem exists_stuckAt_of_read_error (hne : tokens ≠ []) (h : Operand.read tokens = .error fault) :
    ∃ front token, front ++ [token] <+: tokens ∧ StuckAt front token fault := by
  obtain ⟨front, token, after, rfl, hfront, hposition, hstays⟩ :=
    Operand.exists_token_of_read_error h hne
  refine ⟨front, token, ⟨after, by rw [List.append_assoc, List.singleton_append]⟩, ?_,
    fun after' => ofTokens_of_read_error (by simp) (hstays after'), hposition⟩
  rcases hfront with rfl | ⟨operand, hw⟩
  · exact EndsEarly.viable (Or.inl rfl)
  · exact viable_of_writes hw

/-- Where no operator follows an operand, reading is stuck behind it. -/
theorem stuckAt_of_isOperator_eq_false {taken after : List Token} {operand : Operand}
    (hw : Operand.Writes taken operand)
    (hread : Operand.read (taken ++ token :: after) = .ok (operand, token :: after))
    (hoperator : token.isOperator = false) :
    StuckAt taken token ⟨.missingOperator, some token.position⟩ where
  viable := viable_of_writes hw
  stays after' := by
    obtain ⟨taken', htaken, hahead⟩ := Operand.looksAhead_read _ _ _ hread
    obtain rfl := List.append_cancel_right htaken
    rw [ofTokens_of_read_ok (hahead (token :: after') rfl),
      readPairs_of_not_isOperator hoperator]
    rfl
  position_eq := by rw [Operand.blamed_eq_of_read hw hread]

/-- A fault is found where reading is stuck, or it has no position because the tokens end early. -/
theorem exists_stuckAt_or_endsEarly (h : ofTokens tokens = .error fault) :
    (∃ front token, front ++ [token] <+: tokens ∧ StuckAt front token fault) ∨
      EndsEarly tokens ∧ fault.position = none := by
  induction hn : tokens.length using Nat.strongRecOn generalizing tokens with
  | ind n ih =>
    by_cases hne : tokens = []
    · subst hne
      cases h
      exact Or.inr ⟨Or.inl rfl, rfl⟩
    cases hread : Operand.read tokens with
    | error fault' =>
      rw [ofTokens_of_read_error hne hread] at h
      cases h
      exact Or.inl (exists_stuckAt_of_read_error hne hread)
    | ok result =>
      obtain ⟨operand, behind⟩ := result
      obtain ⟨taken, rfl, hw⟩ := Operand.exists_writes_of_read hread
      have hpairs := h
      rw [ofTokens_of_read_ok hread, map_eq_error_iff] at hpairs
      rcases behind with _ | ⟨token, after⟩
      · rw [readPairs_nil] at hpairs
        cases hpairs
      cases hoperator : token.isOperator with
      | false =>
        rw [readPairs_of_not_isOperator hoperator] at hpairs
        cases hpairs
        exact Or.inl ⟨taken, token, ⟨after, by rw [List.append_assoc, List.singleton_append]⟩,
          stuckAt_of_isOperator_eq_false hw hread hoperator⟩
      | true =>
        obtain ⟨op, position, rfl⟩ : ∃ op position, token = .operator op position := by
          cases token with
          | operator op position => exact ⟨op, position, rfl⟩
          | _ => cases hoperator
        by_cases hafter : after = []
        · subst hafter
          rw [readPairs_operator] at hpairs
          cases hpairs
          exact Or.inr ⟨EndsEarly.behind_operator hw op position (Or.inl rfl), rfl⟩
        · -- the tokens behind the operator have the same fault
          rw [ofTokens_append_operator_eq hw op position hafter, map_eq_error_iff] at h
          have hlt : after.length < n := by
            rw [← hn, List.length_append, List.length_cons]
            omega
          rcases ih _ hlt h rfl with ⟨front, token, hfront, hstuck⟩ | ⟨hends, hnone⟩
          · refine Or.inl ⟨taken ++ .operator op position :: front, token, ?_,
              hstuck.behind_operator hw op position⟩
            rw [List.append_assoc, List.cons_append]
            exact (List.prefix_append_right_inj taken).mpr
              (List.cons_prefix_cons.mpr ⟨rfl, hfront⟩)
          · exact Or.inr ⟨hends.behind_operator hw op position, hnone⟩

/-! ## The first token that is not viable -/

/-- Where reading is stuck, the tokens stop being viable. -/
theorem StuckAt.stopsAt (h : StuckAt front token fault) (hfront : front ++ [token] <+: tokens) :
    StopsAt tokens front token where
  isFront := hfront
  notViable := h.notViable
  shortest p hp hviable := by
    have hfront' : front <+: tokens := (List.prefix_append front [token]).trans hfront
    refine Nat.lt_of_not_le fun hle => hviable (h.viable.of_isPrefix ?_)
    exact List.prefix_of_prefix_length_le hp hfront' hle

/-- There is one place only where tokens stop being viable. -/
theorem StopsAt.unique {front' : List Token} {token' : Token} (h : StopsAt tokens front token)
    (h' : StopsAt tokens front' token') : front = front' ∧ token = token' := by
  have hlt := h.shortest _ h'.isFront h'.notViable
  have hlt' := h'.shortest _ h.isFront h.notViable
  rw [List.length_append, List.length_singleton] at hlt hlt'
  have hlength : front.length = front'.length := by omega
  have heq : front ++ [token] = front' ++ [token'] :=
    (List.prefix_of_prefix_length_le h.isFront h'.isFront (by simp [hlength])).eq_of_length
      (by simp [hlength])
  obtain ⟨hfront, htoken⟩ := List.append_inj heq hlength
  exact ⟨hfront, (List.cons.inj htoken).1⟩

/-- **The position of a fault.** If a prefix of the tokens is not viable, the fault has the position
of the last token of the shortest such prefix, but for the feet mark of a second number of feet:
then it has that of the number. If all prefixes are viable, which is the case for no tokens and for
an expression with an operator behind it and for no other tokens with a fault, the position is
missing. -/
theorem ofTokens_fault (h : ofTokens tokens = .error fault) :
    ((∃ p, p <+: tokens ∧ ¬Viable p) → ∃ front token, StopsAt tokens front token) ∧
    (∀ front token, StopsAt tokens front token →
      fault.problem.position? = some ((blamed front token).position : Int)) ∧
    ((∀ p, p <+: tokens → Viable p) ↔ EndsEarly tokens) ∧
    (fault.problem.position? = some (-1) ↔ EndsEarly tokens) := by
  rcases exists_stuckAt_or_endsEarly h with ⟨front, token, hfront, hstuck⟩ | ⟨hends, hnone⟩
  · have hstop := hstuck.stopsAt hfront
    have hearly : ¬EndsEarly tokens := fun hends =>
      hstuck.notViable (hends.viable.of_isPrefix hfront)
    have hreport : fault.problem.position? = some ((blamed front token).position : Int) := by
      rw [Fault.problem, hstuck.position_eq]
      rfl
    refine ⟨fun _ => ⟨front, token, hstop⟩, fun front' token' hstop' => ?_,
      iff_of_false (fun hall => hstuck.notViable (hall _ hfront)) hearly,
      iff_of_false (fun hnegative => ?_) hearly⟩
    · obtain ⟨rfl, rfl⟩ := hstop.unique hstop'
      exact hreport
    · rw [hreport, Option.some.injEq] at hnegative
      omega
  · have hall : ∀ p, p <+: tokens → Viable p := fun p hp => hends.viable.of_isPrefix hp
    have hreport : fault.problem.position? = some (-1) := by
      rw [Fault.problem, hnone]
      rfl
    refine ⟨?_, fun front token hstop => absurd (hall _ hstop.isFront) hstop.notViable,
      iff_of_true hall hends, iff_of_true hreport hends⟩
    rintro ⟨p, hp, hno⟩
    exact absurd (hall p hp) hno

/-- The second number of feet in `3' 3'` is known by its feet mark, and blamed before it. -/
theorem ofTokens_fault_twiceFeet :
    let front : List Token :=
      [.number literalThree false 0, .feetMark 1, .number literalThree false 3]
    ofTokens (front ++ [.feetMark 4]) = .error ⟨.feetTwice, some 3⟩ ∧
      StopsAt (front ++ [.feetMark 4]) front (.feetMark 4) ∧
      ((blamed front (.feetMark 4)).position : Int) = 3 ∧
      (⟨.feetTwice, some 3⟩ : Fault).problem.position? =
        some ((blamed front (.feetMark 4)).position : Int) := by
  intro front
  have hread : ofTokens (front ++ [.feetMark 4]) = .error ⟨.feetTwice, some 3⟩ := rfl
  have hwrites : Operand.Writes front
      (.ofParts false (some literalThree) (some literalThree) none false) :=
    .feet literalThree false 0 1 (Operand.WritesInches.given literalThree false 3).writesParts
  have hstuck : StuckAt front (.feetMark 4) ⟨.feetTwice, some 3⟩ :=
    ⟨viable_of_writes hwrites, fun after => rfl, rfl⟩
  have hstop := hstuck.stopsAt (List.prefix_refl (front ++ [.feetMark 4]))
  exact ⟨hread, hstop, rfl, (ofTokens_fault hread).2.1 _ _ hstop⟩

end Expression

end TapeMeasure
