import TapeMeasure.Rounding

/-!
# Quantities on a tape measure

A quantity is a signed number of inches that is a multiple of a sixteenth.  It is kept in the form
in which it is read off a tape: a sign, whole inches and a proper reduced fraction.

* `Quantity.Parts`: the four numbers, without any promise about them, and `Parts.fault?`, the
  first rule that they break.
* `Quantity`: parts that break none.  `Quantity.ofParts` accepts exactly these.
* `ofSixteenths`: the quantity of a signed count of sixteenths; `sixteenths` counts them again.
* `ofRat`: the quantity nearest to a rational number of inches; a value halfway between two goes
  away from zero.
* `toRat`: the exact value in inches.
* `Parts.ofSixteenths`, `construct`: the same parts as they are computed, and the check of them.
-/

namespace TapeMeasure

/-- The denominators of the marks on the tape. -/
def allowedDenominators : List Int :=
  [1, 2, 4, 8, 16]

/-- A sign and three numbers that claim to be a quantity. -/
structure Quantity.Parts where
  negative : Bool
  whole : Int
  numerator : Int
  denominator : Int
  deriving DecidableEq, Repr

/-- The rules that parts can break. -/
inductive Quantity.Fault where
  | denominatorNotAllowed
  | wholeNegative
  | fractionImproper
  | wholeWithDenominator
  | fractionNotReduced
  | zeroNegative
  | denominatorNotPositive
  deriving DecidableEq, Repr

/-- What is said about parts that break a rule. -/
def Quantity.Fault.message : Quantity.Fault → String
  | denominatorNotAllowed => "denominator must be one of (1, 2, 4, 8, 16)"
  | wholeNegative => "whole inches must be non-negative"
  | fractionImproper => "numerator must satisfy 0 <= numerator < denominator"
  | wholeWithDenominator => "whole quantities must use denominator 1"
  | fractionNotReduced => "fraction must be reduced"
  | zeroNegative => "zero cannot be negative"
  | denominatorNotPositive => "denominator must be positive"

/-- The first rule that the parts break, if they break one. -/
def Quantity.Parts.fault? (p : Quantity.Parts) : Option Quantity.Fault :=
  if p.denominator ∉ allowedDenominators then some .denominatorNotAllowed
  else if p.whole < 0 then some .wholeNegative
  else if ¬(0 ≤ p.numerator ∧ p.numerator < p.denominator) then some .fractionImproper
  else if p.numerator = 0 ∧ p.denominator ≠ 1 then some .wholeWithDenominator
  else if Int.gcd p.numerator p.denominator ≠ 1 ∧ p.numerator ≠ 0 then some .fractionNotReduced
  else if p.negative = true ∧ p.whole = 0 ∧ p.numerator = 0 then some .zeroNegative
  else none

/-- The rules in one statement. -/
structure Quantity.Parts.Sound (p : Quantity.Parts) : Prop where
  denominator_mem : p.denominator ∈ allowedDenominators
  whole_nonneg : 0 ≤ p.whole
  numerator_nonneg : 0 ≤ p.numerator
  numerator_lt : p.numerator < p.denominator
  reduced : Int.gcd p.numerator p.denominator = 1
  ne_zero_of_negative : p.negative = true → p.whole ≠ 0 ∨ p.numerator ≠ 0

/-- A list of checks passes if the first one does and the others do. -/
theorem Quantity.check_eq_none_iff {c : Prop} [Decidable c] {fault : Fault} {o : Option Fault} :
    (if c then some fault else o) = none ↔ ¬c ∧ o = none := by
  split <;> simp_all

/-- Parts break no rule exactly if they are sound. -/
theorem Quantity.Parts.fault?_eq_none_iff {p : Quantity.Parts} : p.fault? = none ↔ p.Sound := by
  simp only [fault?, check_eq_none_iff, Decidable.not_not]
  constructor
  · rintro ⟨mem, whole, ⟨nonneg, lt⟩, one, gcd, sign, -⟩
    refine ⟨mem, by omega, nonneg, lt, ?_, ?_⟩
    · by_cases zero : p.numerator = 0
      · have : p.denominator = 1 := by omega
        rw [zero, this]
        decide
      · by_cases coprime : Int.gcd p.numerator p.denominator = 1
        · exact coprime
        · exact absurd ⟨coprime, zero⟩ gcd
    · intro hs
      by_cases hw : p.whole = 0
      · exact Or.inr fun hn => sign ⟨hs, hw, hn⟩
      · exact Or.inl hw
  · rintro ⟨mem, whole, nonneg, lt, gcd, sign⟩
    refine ⟨mem, by omega, ⟨nonneg, lt⟩, ?_, fun h => h.1 gcd, ?_, trivial⟩
    · rintro ⟨zero, ne⟩
      rw [zero, Int.gcd_zero_left] at gcd
      omega
    · rintro ⟨hs, hw, hn⟩
      rcases sign hs with h | h
      · exact h hw
      · exact h hn

/-- A signed number of inches: whole inches and a proper reduced fraction with a denominator that
divides sixteen. The sign applies to the whole, and zero has none. -/
structure Quantity where
  negative : Bool
  whole : Nat
  numerator : Nat
  denominator : Nat
  denominator_dvd : denominator ∣ 16
  numerator_lt : numerator < denominator
  reduced : Nat.gcd numerator denominator = 1
  ne_zero_of_negative : negative = true → whole ≠ 0 ∨ numerator ≠ 0
  deriving DecidableEq, Repr

namespace Quantity

/-! ## Parts and quantities -/

/-- The four numbers of a quantity. -/
def parts (q : Quantity) : Parts :=
  ⟨q.negative, q.whole, q.numerator, q.denominator⟩

/-- The allowed denominators are the divisors of sixteen. -/
theorem mem_allowedDenominators_iff {d : Nat} : (d : Int) ∈ allowedDenominators ↔ d ∣ 16 := by
  constructor
  · intro h
    simp only [allowedDenominators, List.mem_cons, List.not_mem_nil, or_false] at h
    have : d = 1 ∨ d = 2 ∨ d = 4 ∨ d = 8 ∨ d = 16 := by omega
    rcases this with rfl | rfl | rfl | rfl | rfl <;> decide
  · intro h
    have le : d ≤ 16 := Nat.le_of_dvd (by decide) h
    have key : ∀ n : Nat, n < 17 → n ∣ 16 → (n : Int) ∈ allowedDenominators := by decide
    exact key d (by omega) h

/-- The parts of a quantity are sound. -/
theorem sound_parts (q : Quantity) : q.parts.Sound where
  denominator_mem := mem_allowedDenominators_iff.2 q.denominator_dvd
  whole_nonneg := Int.natCast_nonneg _
  numerator_nonneg := Int.natCast_nonneg _
  numerator_lt := Int.ofNat_lt.2 q.numerator_lt
  reduced := q.reduced
  ne_zero_of_negative h := by
    rcases q.ne_zero_of_negative h with h | h
    · exact Or.inl (by simpa [parts] using h)
    · exact Or.inr (by simpa [parts] using h)

/-- Sound parts as a quantity. -/
def ofSound (p : Parts) (sound : p.Sound) : Quantity where
  negative := p.negative
  whole := p.whole.toNat
  numerator := p.numerator.toNat
  denominator := p.denominator.toNat
  denominator_dvd := by
    have := sound.numerator_nonneg
    have := sound.numerator_lt
    apply mem_allowedDenominators_iff.1
    rw [Int.toNat_of_nonneg (by omega)]
    exact sound.denominator_mem
  numerator_lt := by
    have := sound.numerator_nonneg
    have := sound.numerator_lt
    omega
  reduced := by
    have := sound.numerator_nonneg
    have := sound.numerator_lt
    rw [← Int.gcd_natCast_natCast, Int.toNat_of_nonneg (by omega), Int.toNat_of_nonneg (by omega)]
    exact sound.reduced
  ne_zero_of_negative h := by
    have := sound.numerator_nonneg
    have := sound.whole_nonneg
    rcases sound.ne_zero_of_negative h with h | h
    · exact Or.inl (by omega)
    · exact Or.inr (by omega)

/-- The quantity with the given parts, if they break no rule. -/
def ofParts (p : Parts) : Except Fault Quantity :=
  match broken : p.fault? with
  | some fault => .error fault
  | none => .ok (ofSound p (Parts.fault?_eq_none_iff.1 broken))

/-- A quantity is accepted again from its parts. -/
theorem ofParts_parts (q : Quantity) : ofParts q.parts = .ok q := by
  have broken := Parts.fault?_eq_none_iff.2 q.sound_parts
  unfold ofParts
  split
  · simp_all
  · rfl

/-- What is accepted has the parts that were given. -/
theorem parts_of_ofParts {p : Parts} {q : Quantity} (h : ofParts p = .ok q) : q.parts = p := by
  unfold ofParts at h
  split at h
  · contradiction
  · rename_i broken
    have sound := Parts.fault?_eq_none_iff.1 broken
    have := sound.whole_nonneg
    have := sound.numerator_nonneg
    have := sound.numerator_lt
    cases h
    cases p
    simp only [parts, ofSound, Parts.mk.injEq, true_and] at *
    omega

/-- Two quantities with the same parts are equal. -/
theorem parts_injective {p q : Quantity} (h : p.parts = q.parts) : p = q := by
  have := ofParts_parts p
  rw [h, ofParts_parts q] at this
  cases this
  rfl

/-! ## Sixteenths -/

/-- The quantity of no inches. -/
def zero : Quantity :=
  ⟨false, 0, 0, 1, by decide, by decide, by decide, by decide⟩

/-- The quantity with a sign and a magnitude in sixteenths; zero gets no sign. -/
def ofMagnitude (negative : Bool) (sixteenths : Nat) : Quantity where
  negative := negative && sixteenths != 0
  whole := sixteenths / 16
  numerator := sixteenths % 16 / Nat.gcd (sixteenths % 16) 16
  denominator := 16 / Nat.gcd (sixteenths % 16) 16
  denominator_dvd := Nat.div_dvd_of_dvd (Nat.gcd_dvd_right _ _)
  numerator_lt := Nat.div_lt_div_of_lt_of_dvd (Nat.gcd_dvd_right _ _) (Nat.mod_lt _ (by decide))
  reduced := Nat.gcd_div_gcd_div_gcd_of_pos_right (by decide)
  ne_zero_of_negative h := by
    simp only [Bool.and_eq_true, bne_iff_ne] at h
    by_cases hw : sixteenths / 16 = 0
    · right
      have le := Nat.le_of_dvd (by omega) (Nat.gcd_dvd_left (sixteenths % 16) 16)
      exact Nat.ne_of_gt (Nat.div_pos le (Nat.gcd_pos_of_pos_right _ (by decide)))
    · exact Or.inl hw

/-- The quantity of a signed count of sixteenths. -/
def ofSixteenths (n : Int) : Quantity :=
  ofMagnitude (decide (n < 0)) n.natAbs

/-- The parts for a signed count of sixteenths: the whole inches of its magnitude and the rest in
lowest terms. Zero gets no sign. -/
def Parts.ofSixteenths (n : Int) : Parts :=
  let whole := n.natAbs / 16
  let rest := n.natAbs % 16
  if rest = 0 then ⟨decide (n < 0) && decide (0 < whole), whole, 0, 1⟩
  else
    let divisor := Nat.gcd rest 16
    ⟨decide (n < 0), whole, ((rest / divisor : Nat) : Int), ((16 / divisor : Nat) : Int)⟩

/-- The signed count of sixteenths of a quantity. -/
def sixteenths (q : Quantity) : Int :=
  let magnitude := 16 * q.whole + q.numerator * (16 / q.denominator)
  if q.negative then -(magnitude : Int) else magnitude

/-! ## Rational values -/

/-- The exact value in inches. -/
def toRat (q : Quantity) : Rat :=
  let magnitude := (q.whole : Rat) + (q.numerator : Rat) / (q.denominator : Rat)
  if q.negative then -magnitude else magnitude

/-- The quantity nearest to a rational number of inches. -/
def ofRat (v : Rat) : Quantity :=
  ofSixteenths (roundHalfAway (v * 16))

/-- The nearest quantity, built from computed parts that are checked. -/
def construct (v : Rat) : Except Fault Quantity :=
  ofParts (Parts.ofSixteenths (roundHalfAway (v * 16)))

/-- Whether a quantity is no inches at all. -/
def isZero (q : Quantity) : Bool :=
  q.whole == 0 && q.numerator == 0

end Quantity

end TapeMeasure
