import Mathlib.Data.List.Forall2
import TapeMeasure.Proofs.Decimal.Value
import TapeMeasure.Proofs.Expression.Derivation
import TapeMeasure.Proofs.Token.Layout

/-!
# Mixed numbers

Whole inches stand before a fraction if their value shows no point in the short notation.  That is
not the same as being written without one: a point with nothing behind it is not shown, and a value
of one digit far enough behind the point is shown with an exponent.

* `Decimal.point_notMem_short_iff`: which decimals show no point;
  `Decimal.exists_intCast_or_small` says that these are whole or small.
* `Literal.HidesPoint`: the ways to write a number with a point that is not shown;
  `Literal.point_notMem_short_iff` says that there are no others.
* `Operand.IsMixed`: an operand with whole inches and a fraction at its tokens.
* `mixedNumbers_whole`: which mixed numbers of an expression have a whole part that is written
  without a point.
-/

namespace TapeMeasure

open Text

/-! ## Points that are not shown -/

namespace Decimal

theorem point_notMem_signedExponent (e : Int) : '.' ∉ signedExponent e := by
  rw [signedExponent, List.mem_cons, not_or]
  refine ⟨?_, point_notMem_digitsOfNat _⟩
  split <;> decide

theorem point_mem_signed_iff (negative : Bool) (cs : List Char) :
    '.' ∈ signed negative cs ↔ '.' ∈ cs := by
  cases negative with
  | false => exact Iff.rfl
  | true =>
    rw [signed, if_pos rfl, List.mem_cons]
    exact or_iff_right (by decide)

theorem digitCount_le_one_iff (d : Decimal) : d.digitCount ≤ 1 ↔ d.coefficient < 10 := by
  rw [digitCount_eq, length_digitsOfNat_le_iff Nat.one_pos, Nat.pow_one]

/-- Among decimals with places, those with one digit that is far enough behind the point show no
point. -/
theorem point_notMem_short_iff {d : Decimal} (h : d.exponent ≤ 0) :
    '.' ∉ d.short ↔ d.exponent = 0 ∨ d.exponent < -6 ∧ d.coefficient < 10 := by
  have hlength : d.digitCount = (digitsOfNat d.coefficient).length := d.digitCount_eq
  have hcount := d.digitCount_pos
  rw [short, point_mem_signed_iff, unsignedShort, ← digitCount_le_one_iff]
  split
  · rename_i hplain
    rw [isPlainInShort, Bool.and_eq_true, decide_eq_true_eq, decide_eq_true_eq, adjusted] at hplain
    rw [point_mem_unsignedPlain]
    omega
  · rename_i hplain
    rw [isPlainInShort, Bool.and_eq_true, decide_eq_true_eq, decide_eq_true_eq, adjusted] at hplain
    rw [List.mem_append, point_mem_placePoint (point_notMem_digitsOfNat _), List.mem_cons,
      or_iff_right (by decide : '.' ≠ 'E'), or_iff_left (point_notMem_signedExponent _)]
    omega

/-- A number with places that shows no point is whole or below a millionth. -/
theorem exists_intCast_or_small {d : Decimal} (hsign : d.negative = false) (h : d.exponent ≤ 0)
    (hshort : '.' ∉ d.short) :
    (∃ n : Int, d.toRat = n) ∨ 0 < d.toRat ∧ d.toRat < 1 / 10 ^ 6 := by
  have hvalue : d.toRat = (d.coefficient : Rat) * (10 : Rat) ^ d.exponent := by
    rw [toRat_eq, hsign, if_neg Bool.false_ne_true, magnitude]
  rcases (point_notMem_short_iff h).mp hshort with hexponent | ⟨hexponent, hcoefficient⟩
  · rw [hexponent, zpow_zero, mul_one] at hvalue
    exact Or.inl ⟨d.coefficient, hvalue⟩
  · rcases Nat.eq_zero_or_pos d.coefficient with hzero | hpos
    · rw [hzero, Nat.cast_zero, zero_mul] at hvalue
      exact Or.inl ⟨0, hvalue⟩
    · have hpow : (10 : Rat) ^ d.exponent ≤ 10 ^ (-7 : Int) :=
        zpow_le_zpow_right₀ (by norm_num) (by omega)
      have hdigit : (d.coefficient : Rat) < 10 := by exact_mod_cast hcoefficient
      right
      rw [hvalue]
      refine ⟨mul_pos (Nat.cast_pos.mpr hpos) (zpow_pos (by norm_num) _), ?_⟩
      calc
        (d.coefficient : Rat) * (10 : Rat) ^ d.exponent
            ≤ (d.coefficient : Rat) * (10 : Rat) ^ (-7 : Int) :=
          mul_le_mul_of_nonneg_left hpow (Nat.cast_nonneg _)
        _ < 10 * (10 : Rat) ^ (-7 : Int) := mul_lt_mul_of_pos_right hdigit (by norm_num)
        _ = 1 / 10 ^ 6 := by norm_num

end Decimal

/-! ## Numbers that hide their point -/

namespace Literal

/-- A number is written with a point that its value does not show: nothing stands behind the point,
or seven digits or more, and no digit but the last is other than zero. -/
def HidesPoint (l : Literal) : Prop :=
  ∃ whole places : List Char, l.text.toList = whole ++ '.' :: places ∧
    (places = [] ∨ 7 ≤ places.length ∧ ∀ c ∈ (whole ++ places).dropLast, c = '0')

theorem isInteger_iff (l : Literal) : l.isInteger = true ↔ '.' ∉ l.text.toList := by
  rw [isInteger, Bool.not_eq_true', ← Bool.not_eq_true, List.contains_iff_mem]

/-- What hides a point has one. -/
theorem HidesPoint.isInteger_eq_false {l : Literal} (h : l.HidesPoint) : l.isInteger = false := by
  obtain ⟨whole, places, htext, -⟩ := h
  rw [← Bool.not_eq_true, isInteger_iff, htext, not_not]
  exact List.mem_append_right _ List.mem_cons_self

theorem point_notMem_of_isDigit {cs : List Char} (h : ∀ c ∈ cs, c.isDigit = true) : '.' ∉ cs :=
  fun hmem => absurd (h '.' hmem) (by decide)

/-- Digits around a point hide it exactly as their value does. -/
theorem hidesPoint_iff {l : Literal} {whole places : List Char}
    (hwhole : ∀ c ∈ whole, c.isDigit = true) (hplaces : ∀ c ∈ places, c.isDigit = true)
    (htext : l.text.toList = whole ++ '.' :: places) :
    l.HidesPoint ↔ places = [] ∨ 7 ≤ places.length ∧ natOfDigits (whole ++ places) < 10 := by
  have hdigits : ∀ c ∈ whole ++ places, c.isDigit = true := fun c hc =>
    (List.mem_append.mp hc).elim (hwhole c) (hplaces c)
  rw [natOfDigits_lt_ten_iff hdigits]
  constructor
  · rintro ⟨whole', places', htext', h⟩
    rw [htext] at htext'
    obtain ⟨rfl, -, rfl⟩ := (List.append_cons_inj_of_notMem (point_notMem_of_isDigit hwhole)
      (point_notMem_of_isDigit hplaces)).mp htext'
    exact h
  · exact fun h => ⟨whole, places, htext, h⟩

/-- A number is written without a point and is whole, or it has as many places as digits follow the
point. -/
theorem value_cases {l : Literal} (form : Token.NumberForm l.text.toList) :
    (l.isInteger = true ∧ l.value = Decimal.ofNat (natOfDigits l.text.toList)) ∨
      ∃ whole places : List Char, (∀ c ∈ whole, c.isDigit = true) ∧
        (∀ c ∈ places, c.isDigit = true) ∧ l.text.toList = whole ++ '.' :: places ∧
          l.value = ⟨false, natOfDigits (whole ++ places), -(places.length : Int)⟩ := by
  have hvalue := l.value_eq
  rw [isInteger_iff]
  generalize l.text.toList = cs at form hvalue
  cases form with
  | whole isDigit ne =>
    rw [Decimal.parse?_digits isDigit ne] at hvalue
    exact Or.inl ⟨point_notMem_of_isDigit isDigit, (Option.some.inj hvalue).symm⟩
  | @pointed whole places wholeDigit placeDigit ne =>
    rw [Decimal.parse?_point wholeDigit placeDigit ne] at hvalue
    exact Or.inr ⟨whole, places, wholeDigit, placeDigit, rfl, (Option.some.inj hvalue).symm⟩

/-- A number has no sign of its own and no zeros that only an exponent writes. -/
theorem value_of_numberForm {l : Literal} (form : Token.NumberForm l.text.toList) :
    l.value.negative = false ∧ l.value.exponent ≤ 0 := by
  rcases value_cases form with ⟨-, hvalue⟩ | ⟨whole, places, -, -, -, hvalue⟩
  · rw [hvalue]
    exact ⟨rfl, le_rfl⟩
  · rw [hvalue]
    exact ⟨rfl, neg_nonpos.mpr (Int.natCast_nonneg _)⟩

/-- A number that is written without a point is whole. -/
theorem exists_intCast_of_isInteger {l : Literal} (form : Token.NumberForm l.text.toList)
    (h : l.isInteger = true) : ∃ n : Int, l.value.toRat = n := by
  rcases value_cases form with ⟨-, hvalue⟩ | ⟨whole, places, -, -, htext, -⟩
  · rw [hvalue]
    exact ⟨(natOfDigits l.text.toList : Nat), Decimal.toRat_ofNat _⟩
  · rw [isInteger_iff, htext] at h
    exact absurd (List.mem_append_right _ List.mem_cons_self) h

/-- A number shows no point exactly if it is written without one or hides it. -/
theorem point_notMem_short_iff {l : Literal} (form : Token.NumberForm l.text.toList) :
    '.' ∉ l.value.short ↔ l.isInteger = true ∨ l.HidesPoint := by
  rw [Decimal.point_notMem_short_iff (value_of_numberForm form).2]
  rcases value_cases form with ⟨hinteger, hvalue⟩ | ⟨whole, places, hwhole, hplaces, htext, hvalue⟩
  · rw [hvalue]
    exact iff_of_true (Or.inl rfl) (Or.inl hinteger)
  · have hpointed : ¬l.isInteger = true := by
      rw [isInteger_iff, htext, not_not]
      exact List.mem_append_right _ List.mem_cons_self
    rw [or_iff_right hpointed, hidesPoint_iff hwhole hplaces htext, hvalue,
      ← List.length_eq_zero_iff]
    dsimp only
    omega

/-- Where no point is shown, being written without one is not hiding one. -/
theorem isInteger_iff_not_hidesPoint {l : Literal} (form : Token.NumberForm l.text.toList)
    (hshort : '.' ∉ l.value.short) : l.isInteger = true ↔ ¬l.HidesPoint := by
  constructor
  · intro hinteger hhides
    rw [hhides.isInteger_eq_false] at hinteger
    cases hinteger
  · exact ((point_notMem_short_iff form).mp hshort).resolve_right

end Literal

/-- The numbers of a text are written as numbers. -/
theorem Token.numberForm_of_mem {text : String} {tokens : List Token}
    (h : ofText text = .ok tokens) {literal : Literal} {negative : Bool} {position : Nat}
    (hmem : number literal negative position ∈ tokens) : NumberForm literal.text.toList := by
  obtain ⟨spans, rfl, hcovers, -⟩ := (laidOut_of_scan h).exists_covers List.length_nil
  obtain ⟨span, hspan, hnumber⟩ := List.mem_map.mp hmem
  have hspells := hcovers.spelled span hspan
  rw [hnumber] at hspells
  generalize List.drop _ _ = spelling at hspells
  cases hspells with
  | number _ _ form size => exact form

/-! ## Mixed numbers -/

namespace Operand

/-- An operand has whole inches and a fraction, which stand side by side in its tokens. -/
structure IsMixed (tokens : List Token) (o : Operand) (whole : Literal) (ratio : Ratio) :
    Prop where
  adjacent : ∃ negative position negative' position',
    [.number whole negative position, .fraction ratio negative' position'] <:+: tokens
  inches_eq : o.inches = some whole.value.toRat
  fraction_eq : o.fraction = some ratio.toRat

theorem IsMixed.mem {tokens : List Token} {o : Operand} {whole : Literal} {ratio : Ratio}
    (h : IsMixed tokens o whole ratio) :
    ∃ negative position, .number whole negative position ∈ tokens := by
  obtain ⟨negative, position, negative', position', hinfix⟩ := h.adjacent
  exact ⟨negative, position, hinfix.subset List.mem_cons_self⟩

/-- Where inches and a fraction are written they stand side by side, and no point is shown. -/
theorem WritesParts.mixed {tokens : List Token} {whole : Literal} {ratio : Ratio} {percent : Bool}
    (h : WritesParts tokens (some whole) (some ratio) percent) :
    (∃ negative position negative' position',
      [.number whole negative position, .fraction ratio negative' position'] <:+: tokens) ∧
      '.' ∉ whole.value.short := by
  cases h with
  | mk writesInches writesFraction writesMark writesPercent hwhole hasInches =>
    rename_i tm tp _
    cases writesInches with
    | given _ negative position =>
      cases writesFraction with
      | given _ negative' position' =>
        exact ⟨⟨negative, position, negative', position', [], tm ++ tp, rfl⟩,
          hwhole rfl whole rfl⟩

/-- An operand with inches and a fraction is written as a mixed number that shows no point. -/
theorem Writes.isMixed {tokens : List Token} {o : Operand} (h : Writes tokens o)
    (hinches : o.inches.isSome = true) (hfraction : o.fraction.isSome = true) :
    ∃ whole ratio, IsMixed tokens o whole ratio ∧ '.' ∉ whole.value.short := by
  cases h with
  | @feet tokens inches fraction percent literal negative position mark parts =>
    obtain ⟨whole, rfl⟩ := Option.isSome_iff_exists.mp (Option.isSome_map ▸ hinches)
    obtain ⟨ratio, rfl⟩ := Option.isSome_iff_exists.mp (Option.isSome_map ▸ hfraction)
    obtain ⟨⟨n, p, n', p', hinfix⟩, hshort⟩ := parts.mixed
    refine ⟨whole, ratio, ⟨⟨n, p, n', p', ?_⟩, rfl, rfl⟩, hshort⟩
    exact hinfix.trans (List.suffix_append [_, _] tokens).isInfix
  | @inches tokens fraction percent literal negative position parts =>
    obtain ⟨ratio, rfl⟩ := Option.isSome_iff_exists.mp (Option.isSome_map ▸ hfraction)
    obtain ⟨hadjacent, hshort⟩ := parts.mixed
    exact ⟨literal, ratio, ⟨hadjacent, rfl, rfl⟩, hshort⟩
  | fraction ratio negative position parts => cases hinches

end Operand

namespace Expression

/-- The tokens of each operand. -/
def Cut.operands (c : Cut) : List (List Token) :=
  c.first :: c.pieces.map Piece.operand

/-- The tokens of an operand stand side by side. -/
theorem Cut.infix_tokens {c : Cut} {operand : List Token} (h : operand ∈ c.operands) :
    operand <:+: c.tokens := by
  rcases List.mem_cons.mp h with rfl | h
  · exact (List.prefix_append _ _).isInfix
  · obtain ⟨piece, hpiece, rfl⟩ := List.mem_map.mp h
    have hpieces : piece.tokens <:+: c.pieces.flatMap Piece.tokens :=
      List.infix_of_mem_flatten (List.mem_map_of_mem hpiece)
    exact (List.suffix_cons _ _).isInfix.trans
      (hpieces.trans (List.suffix_append _ _).isInfix)

theorem Cut.mem_tokens {c : Cut} {operand : List Token} (h : operand ∈ c.operands) {token : Token}
    (htoken : token ∈ operand) : token ∈ c.tokens :=
  (Cut.infix_tokens h).subset htoken

theorem WritesPairs.forall₂ {pieces : List Piece} {rest : List (Operator × Operand)}
    (h : WritesPairs pieces rest) :
    List.Forall₂ Operand.Writes (pieces.map Piece.operand) (rest.map Prod.snd) := by
  induction h with
  | nil => exact .nil
  | cons piece writes pairs ih => exact .cons writes ih

/-- A cut writes the operands one by one. -/
theorem Cut.Writes.forall₂ {c : Cut} {e : Expression} (h : c.Writes e) :
    List.Forall₂ Operand.Writes c.operands e.operands :=
  .cons h.first h.pairs.forall₂

/-- **Whole parts of mixed numbers.** Every operand with inches and a fraction is written as a
number and a fraction side by side.  The number is written without a point exactly if it hides
none, and then the inches are whole; otherwise they are whole or below a millionth. -/
theorem mixedNumbers_whole {text : String} {tokens : List Token} {e : Expression}
    (htokens : Token.ofText text = .ok tokens) (he : ofTokens tokens = .ok e) :
    ∃ c : Cut, c.tokens = tokens ∧ c.Writes e ∧
      List.Forall₂ (fun operandTokens o => o.inches.isSome = true → o.fraction.isSome = true →
        ∃ whole ratio, Operand.IsMixed operandTokens o whole ratio ∧
          (whole.isInteger = true ↔ ¬whole.HidesPoint) ∧
          ((∃ n : Int, o.inches = some (n : Rat)) ∨
            whole.HidesPoint ∧ ∃ inches, o.inches = some inches ∧ 0 < inches ∧
              inches < 1 / 10 ^ 6)) c.operands e.operands := by
  obtain ⟨c, rfl, hwrites⟩ := exists_cut_of_ofTokens he
  refine ⟨c, rfl, hwrites, ?_⟩
  have hoperands : List.Forall₂ (fun xs o => xs ∈ c.operands ∧ Operand.Writes xs o)
      c.operands e.operands :=
    (List.forall₂_and_left _ _).mpr ⟨fun _ h => h, hwrites.forall₂⟩
  refine hoperands.imp ?_
  rintro xs o ⟨hmem, hxs⟩ hinches hfraction
  obtain ⟨whole, ratio, hmixed, hshort⟩ := hxs.isMixed hinches hfraction
  obtain ⟨negative, position, hnumber⟩ := hmixed.mem
  have form := Token.numberForm_of_mem htokens (Cut.mem_tokens hmem hnumber)
  have hinteger := Literal.isInteger_iff_not_hidesPoint form hshort
  refine ⟨whole, ratio, hmixed, hinteger, ?_⟩
  rw [hmixed.inches_eq]
  by_cases hhides : whole.HidesPoint
  · obtain ⟨hsign, hexponent⟩ := Literal.value_of_numberForm form
    rcases Decimal.exists_intCast_or_small hsign hexponent hshort with ⟨n, hn⟩ | hsmall
    · exact Or.inl ⟨n, congrArg some hn⟩
    · exact Or.inr ⟨hhides, _, rfl, hsmall⟩
  · obtain ⟨n, hn⟩ := Literal.exists_intCast_of_isInteger form (hinteger.mpr hhides)
    exact Or.inl ⟨n, congrArg some hn⟩

/-- Five, with a point that has nothing behind it. -/
def literalFivePoint : Literal :=
  ⟨"5.", ⟨false, 5, 0⟩, by rfl⟩

/-- The tokens of `5. 1/2 + 3 1/2`. -/
def fivePointHalfTokens : List Token :=
  [.number literalFivePoint false 0, .fraction ratioHalf false 3, .operator .add 7,
    .number literalThree false 9, .fraction ratioHalf false 11]

/-- The expression of `5. 1/2 + 3 1/2`. -/
def fivePointHalf : Expression :=
  ⟨.ofParts false none (some literalFivePoint) (some ratioHalf) false,
    [(.add, .ofParts false none (some literalThree) (some ratioHalf) false)]⟩

/-- One whole part of `5. 1/2 + 3 1/2` hides its point, and the other has none. -/
theorem mixedNumbers_whole_fivePointHalf :
    Token.ofText "5. 1/2 + 3 1/2" = .ok fivePointHalfTokens ∧
      ofTokens fivePointHalfTokens = .ok fivePointHalf ∧
      literalFivePoint.isInteger = false ∧ literalThree.isInteger = true ∧
      ∃ c : Cut, c.tokens = fivePointHalfTokens ∧ c.Writes fivePointHalf ∧
        List.Forall₂ (fun operandTokens o => o.inches.isSome = true → o.fraction.isSome = true →
          ∃ whole ratio, Operand.IsMixed operandTokens o whole ratio ∧
            (whole.isInteger = true ↔ ¬whole.HidesPoint) ∧
            ((∃ n : Int, o.inches = some (n : Rat)) ∨
              whole.HidesPoint ∧ ∃ inches, o.inches = some inches ∧ 0 < inches ∧
                inches < 1 / 10 ^ 6)) c.operands fivePointHalf.operands := by
  have htokens : Token.ofText "5. 1/2 + 3 1/2" = .ok fivePointHalfTokens := by decide +kernel
  have he : ofTokens fivePointHalfTokens = .ok fivePointHalf := by decide +kernel
  exact ⟨htokens, he, by decide, by decide, mixedNumbers_whole htokens he⟩

/-- A ten-millionth. -/
def literalTenMillionth : Literal :=
  ⟨"0.0000001", ⟨false, 1, -7⟩, by rfl⟩

/-- The tokens of `0.0000001 1/2`. -/
def tenMillionthHalfTokens : List Token :=
  [.number literalTenMillionth false 0, .fraction ratioHalf false 10]

/-- A mixed number whose inches are not whole, and are not written without a point. -/
theorem mixedNumbers_tenMillionthHalf :
    Token.ofText "0.0000001 1/2" = .ok tenMillionthHalfTokens ∧
      (∀ literal negative position, .number literal negative position ∈ tenMillionthHalfTokens →
        literal.isInteger = false) ∧
      ∃ e, ofTokens tenMillionthHalfTokens = .ok e ∧ e.first.fraction = some (1 / 2) ∧
        e.first.inches = some (1 / 10 ^ 7) ∧ ¬∃ n : Int, e.first.inches = some (n : Rat) := by
  have hinches : (Operand.ofParts false none (some literalTenMillionth) (some ratioHalf)
      false).inches = some (1 / 10 ^ 7) := by decide +kernel
  refine ⟨by decide +kernel, ?_, ⟨.ofParts false none (some literalTenMillionth) (some ratioHalf)
    false, []⟩, by decide +kernel, by decide +kernel, hinches, ?_⟩
  · intro literal negative position hmem
    rcases List.mem_cons.mp hmem with hnumber | hmem
    · cases hnumber
      decide
    · cases List.mem_singleton.mp hmem
  · rintro ⟨n, hn⟩
    -- A denominator that is not one stays one.
    have hden := congrArg Rat.den (Option.some.inj (hinches.symm.trans hn))
    rw [Rat.den_intCast] at hden
    exact absurd hden (by decide +kernel)

end Expression

end TapeMeasure
