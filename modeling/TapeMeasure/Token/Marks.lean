/-!
# Marks for feet and inches

Feet are marked with a single quote and inches with a double one.  Word processors and speech
systems write them as typographic quotes, primes or accents, and two single quotes in a row stand
for a double one.

* `plainMarks`: the text with plain marks.
* `plainMarks_of_forall`: a text without typographic marks and paired quotes is not changed.
-/

namespace TapeMeasure

namespace Token

/-- The other characters that mark feet; the last one is the grave accent. -/
def feetMarks : List Char :=
  ['’', '‘', '′', 'ʼ', '\x60']

/-- The other characters that mark inches. -/
def inchMarks : List Char :=
  ['“', '”', '″']

/-- The plain mark for a character, which is the character itself if it marks nothing. -/
def plainMark (c : Char) : Char :=
  if c ∈ inchMarks then '"' else if c ∈ feetMarks then '\'' else c

/-- The text with plain marks. Two plain single quotes count as one double one; a typographic one
does not count for half of it. -/
def plainMarks : List Char → List Char
  | [] => []
  | '\'' :: '\'' :: cs => '"' :: plainMarks cs
  | c :: cs => plainMark c :: plainMarks cs

@[simp] theorem plainMarks_nil : plainMarks [] = [] := rfl

/-- In front of anything else, a text without single quotes and typographic marks stays. -/
theorem plainMarks_append {cs : List Char}
    (h : ∀ c ∈ cs, c ≠ '\'' ∧ c ∉ inchMarks ∧ c ∉ feetMarks) (ds : List Char) :
    plainMarks (cs ++ ds) = cs ++ plainMarks ds := by
  induction cs with
  | nil => rfl
  | cons c cs ih =>
    obtain ⟨quote, inch, feet⟩ := h c (by simp)
    rw [List.cons_append, plainMarks.eq_3 _ _ (by intro _ h; exact absurd h quote)]
    rw [ih fun d hd => h d (by simp [hd]), plainMark, if_neg inch, if_neg feet]
    rfl

/-- A text without single quotes and typographic marks is not changed. -/
theorem plainMarks_of_forall {cs : List Char}
    (h : ∀ c ∈ cs, c ≠ '\'' ∧ c ∉ inchMarks ∧ c ∉ feetMarks) : plainMarks cs = cs := by
  have key := plainMarks_append h []
  rwa [plainMarks_nil, List.append_nil] at key

/-- The plain text is not longer. -/
theorem length_plainMarks_le (cs : List Char) : (plainMarks cs).length ≤ cs.length := by
  fun_induction plainMarks cs with
  | case1 => simp
  | case2 cs ih => simp; omega
  | case3 c cs _ ih => simpa using ih

end Token

end TapeMeasure
