import Mathlib.Data.List.TakeWhile
import TapeMeasure.Proofs.Token.Lexeme
import TapeMeasure.Proofs.Token.Scan

/-!
# Scanning across a blank

A blank ends a number, a fraction and a mark just as the end of the text does, so a text is scanned
up to a blank as if nothing followed, and from there on with what has been read before it.

* `lexeme_append_blank`: one step of the scan does not look behind a blank.
* `scan_append_blank`: the scan is cut at a blank, with the tokens, the faults and all positions.
* `ofText_eq_scan`: trailing blanks need not be trimmed.
* `ofText_append`: the tokens of two texts with a space between them; `ofText_append_of_error`: the
  first one has none.
-/

namespace TapeMeasure

open Text

namespace Token

/-! ## Blanks are not part of anything -/

theorem isDigit_eq_false_of_isBlank {c : Char} (hc : isBlank c = true) : c.isDigit = false :=
  isDigit_eq_false_of_isNumeric (isNumeric_eq_false_of_isBlank hc)

theorem ne_of_isBlank {c d : Char} (hc : isBlank c = true) (hd : isBlank d = false) : c ≠ d := by
  rintro rfl
  rw [hc] at hd
  cases hd

section

variable {p : Char → Bool} {c : Char} (cs ds : List Char)

theorem takeWhile_append_cons (hc : p c = false) :
    (cs ++ c :: ds).takeWhile p = cs.takeWhile p := by
  induction cs with
  | nil => exact List.takeWhile_cons_of_neg (by rw [hc]; decide)
  | cons d cs ih =>
    rw [List.cons_append, List.takeWhile_cons, List.takeWhile_cons, ih]

theorem dropWhile_append_cons (hc : p c = false) :
    (cs ++ c :: ds).dropWhile p = cs.dropWhile p ++ c :: ds := by
  induction cs with
  | nil => exact List.dropWhile_cons_of_neg (by rw [hc]; decide)
  | cons d cs ih =>
    rw [List.cons_append, List.dropWhile_cons, List.dropWhile_cons, ih]
    split <;> rfl

end

theorem head?_append_cons_eq_iff {c d : Char} (hne : c ≠ d) (cs ds : List Char) :
    (cs ++ c :: ds).head? = some d ↔ cs.head? = some d := by
  cases cs with
  | nil => exact iff_of_false (fun h => hne (Option.some.inj h)) (fun h => nomatch h)
  | cons e cs => exact Iff.rfl

/-! ## One step in front of a blank -/

section

variable {b : Char} {cs : List Char} (hb : isBlank b = true) (ds : List Char)

include hb

theorem startsNumber_append_blank (cs : List Char) :
    startsNumber (cs ++ b :: ds) = startsNumber cs := by
  have hdigit := isDigit_eq_false_of_isBlank hb
  have hpoint : b ≠ '.' := ne_of_isBlank hb rfl
  obtain _ | ⟨c, _ | ⟨d, cs⟩⟩ := cs
  · rw [List.nil_append, startsNumber.eq_2 _ _ (fun _ _ h _ => hpoint h), hdigit]
    rfl
  · by_cases hc : c = '.'
    · rw [hc]
      exact hdigit
    · rw [List.cons_append, startsNumber.eq_2 _ _ (fun _ _ h _ => hc h),
        startsNumber.eq_2 _ _ (fun _ _ h _ => hc h)]
  · by_cases hc : c = '.'
    · rw [hc]
      rfl
    · rw [List.cons_append, startsNumber.eq_2 _ _ (fun _ _ h _ => hc h),
        startsNumber.eq_2 _ _ (fun _ _ h _ => hc h)]

theorem Numeral.ofFront_append_blank (cs : List Char) :
    Numeral.ofFront (cs ++ b :: ds) = Numeral.ofFront cs := by
  have hdigit := isDigit_eq_false_of_isBlank hb
  have hhead := head?_append_cons_eq_iff (ne_of_isBlank hb (rfl : isBlank '.' = false))
    (cs.dropWhile Char.isDigit) ds
  by_cases hpoint : (cs.dropWhile Char.isDigit).head? = some '.'
  · obtain ⟨rest, hrest⟩ := List.head?_eq_some_iff.mp hpoint
    have hlong : (cs ++ b :: ds).dropWhile Char.isDigit = '.' :: (rest ++ b :: ds) := by
      rw [dropWhile_append_cons cs ds hdigit, hrest, List.cons_append]
    rw [ofFront_of_point hrest, ofFront_of_point hlong, takeWhile_append_cons cs ds hdigit,
      takeWhile_append_cons rest ds hdigit]
  · have hlong : ((cs ++ b :: ds).dropWhile Char.isDigit).head? ≠ some '.' := by
      rwa [dropWhile_append_cons cs ds hdigit, ne_eq, hhead]
    rw [ofFront_of_head?_ne hpoint, ofFront_of_head?_ne hlong,
      takeWhile_append_cons cs ds hdigit]

theorem fractionLexeme_append_blank (negative : Bool) (start slash numerator : Nat) :
    fractionLexeme negative start slash numerator (cs ++ b :: ds) =
      fractionLexeme negative start slash numerator cs := by
  have hdigit := isDigit_eq_false_of_isBlank hb
  rw [fractionLexeme, fractionLexeme]
  simp only [takeWhile_append_cons cs ds hdigit, dropWhile_append_cons cs ds hdigit,
    head?_append_cons_eq_iff (ne_of_isBlank hb (rfl : isBlank '\'' = false))]

theorem numberLexeme_append_blank (negative : Bool) (start position : Nat)
    (hlong : startsNumber (cs ++ b :: ds) = true) (h : startsNumber cs = true) :
    numberLexeme negative start position (cs ++ b :: ds) hlong =
      numberLexeme negative start position cs h := by
  obtain ⟨rest, hcs, -⟩ := Numeral.exists_text_ofFront_append cs
  have hdrop : cs.drop (Numeral.ofFront cs).text.length = rest := drop_of_append_eq hcs
  have hdropLong : (cs ++ b :: ds).drop (Numeral.ofFront cs).text.length = rest ++ b :: ds := by
    refine drop_of_append_eq ?_
    rw [← List.append_assoc, hcs]
  rw [numberLexeme, numberLexeme]
  simp only [Numeral.ofFront_append_blank hb, hdrop, hdropLong]
  split
  · rfl
  · obtain _ | ⟨c, rest⟩ := rest
    · rw [List.nil_append]
      split
      · rename_i hslash
        exact absurd (List.cons.inj hslash).1 (ne_of_isBlank hb rfl)
      · rename_i hquote
        exact absurd (List.cons.inj hquote).1 (ne_of_isBlank hb rfl)
      · rfl
    · rw [List.cons_append]
      split
      · rename_i hslash
        obtain ⟨rfl, rfl⟩ := List.cons.inj hslash
        simp only [fractionLexeme_append_blank hb]
      · rename_i hquote
        obtain ⟨rfl, rfl⟩ := List.cons.inj hquote
        rfl
      · rename_i hslash hquote
        split
        · rename_i heq
          exact absurd (congrArg (· :: _) (List.cons.inj heq).1) (hslash _)
        · rename_i heq
          exact absurd (congrArg (· :: _) (List.cons.inj heq).1) (hquote _)
        · rfl

theorem lexeme_append_blank (position : Nat) (afterOperand : Bool) (c : Char) (cs : List Char) :
    lexeme position afterOperand c (cs ++ b :: ds) = lexeme position afterOperand c cs := by
  have hfirst : startsNumber (c :: (cs ++ b :: ds)) = startsNumber (c :: cs) :=
    startsNumber_append_blank hb ds (c :: cs)
  have hnext := startsNumber_append_blank hb ds cs
  rw [lexeme, lexeme]
  split
  · rfl
  · by_cases hnumber : startsNumber (c :: cs) = true
    · rw [dif_pos hnumber, dif_pos (hfirst.trans hnumber)]
      exact numberLexeme_append_blank hb ds false position position (hfirst.trans hnumber) hnumber
    · rw [dif_neg hnumber, dif_neg (by rwa [hfirst])]
      by_cases hminus : c = '-' ∧ afterOperand = false ∧ startsNumber cs = true
      · have hlong : c = '-' ∧ afterOperand = false ∧ startsNumber (cs ++ b :: ds) = true := by
          rwa [hnext]
        rw [dif_pos hminus, dif_pos hlong,
          numberLexeme_append_blank hb ds true position (position + 1) hlong.2.2 hminus.2.2]
      · rw [dif_neg hminus, dif_neg (by rwa [hnext])]

end

/-! ## The scan -/

section

variable {position : Nat} {afterOperand : Bool}

theorem endsOperand_append (xs ys : List Token) :
    endsOperand afterOperand (xs ++ ys) = endsOperand (endsOperand afterOperand xs) ys := by
  rw [endsOperand, endsOperand, List.getLast?_append]
  cases ys.getLast? <;> rfl

theorem more_le_of_lexeme {c : Char} {cs : List Char} {first : Lexeme}
    (h : lexeme position afterOperand c cs = .ok first) : first.more ≤ cs.length := by
  obtain ⟨front, rest, hcut, hlength, -⟩ := opens_of_lexeme h
  have hle := congrArg List.length hcut
  rw [List.length_cons, List.length_append, hlength] at hle
  omega

/-- The scan is cut at a blank: a fault before it stays where it is, and what stands behind it is
scanned with the tokens before it in view. -/
theorem scan_append_blank {b : Char} (hb : isBlank b = true) (cs ds : List Char) :
    scan position afterOperand (cs ++ b :: ds) =
      (scan position afterOperand cs).bind fun tokens =>
        (scan (position + cs.length + 1) (endsOperand afterOperand tokens) ds).map
          (tokens ++ ·) := by
  induction position, afterOperand, cs using scan.induct with
  | case1 position afterOperand =>
    rw [List.nil_append, scan_nil, scan_blank hb]
    show _ = (scan (position + 1) afterOperand ds).map ([] ++ ·)
    cases scan (position + 1) afterOperand ds <;> rfl
  | case2 position afterOperand c cs ih =>
    rw [List.cons_append, scan_cons, scan_cons, lexeme_append_blank hb]
    cases hfirst : lexeme position afterOperand c cs with
    | error fault => rfl
    | ok first =>
      have hmore := more_le_of_lexeme hfirst
      have hposition : position + 1 + first.more + (cs.drop first.more).length + 1 =
          position + (c :: cs).length + 1 := by
        rw [List.length_drop, List.length_cons]
        omega
      have hrest := ih first
      rw [hposition] at hrest
      simp only [Except.bind, List.drop_append_of_le_length hmore, hrest]
      cases scan (position + 1 + first.more) (endsOperand afterOperand first.tokens)
          (cs.drop first.more) with
      | error fault => rfl
      | ok later =>
        simp only [Except.map, endsOperand_append]
        cases scan (position + (c :: cs).length + 1)
            (endsOperand (endsOperand afterOperand first.tokens) later) ds with
        | error fault => rfl
        | ok rest => exact congrArg Except.ok (List.append_assoc _ _ _).symm

theorem scan_of_blank {bs : List Char} (hbs : ∀ c ∈ bs, isBlank c = true) :
    scan position afterOperand bs = .ok [] := by
  induction bs generalizing position with
  | nil => exact scan_nil position afterOperand
  | cons b bs ih =>
    obtain ⟨hb, hbs⟩ := List.forall_mem_cons.mp hbs
    rw [scan_blank hb, ih hbs]

/-- Blanks at the end of a text have no effect. -/
theorem scan_append_of_blank {bs : List Char} (cs : List Char)
    (hbs : ∀ c ∈ bs, isBlank c = true) :
    scan position afterOperand (cs ++ bs) = scan position afterOperand cs := by
  obtain _ | ⟨b, bs⟩ := bs
  · rw [List.append_nil]
  · obtain ⟨hb, hbs⟩ := List.forall_mem_cons.mp hbs
    rw [scan_append_blank hb]
    simp only [scan_of_blank hbs]
    cases scan position afterOperand cs with
    | error fault => rfl
    | ok tokens => exact congrArg Except.ok (List.append_nil tokens)

end

/-! ## The text as it was entered -/

theorem plainMark_of_isBlank {b : Char} (hb : isBlank b = true) : plainMark b = b := by
  have hmarks : ∀ marks : List Char, marks.any isBlank = false → b ∉ marks :=
    fun marks hmarks hmem => List.any_eq_false.mp hmarks b hmem hb
  rw [plainMark, if_neg (hmarks inchMarks rfl), if_neg (hmarks feetMarks rfl)]

/-- A blank stands between two marks. -/
theorem plainMarks_append_blank {b : Char} (hb : isBlank b = true) (cs ds : List Char) :
    plainMarks (cs ++ b :: ds) = plainMarks cs ++ b :: plainMarks ds := by
  have hquote : b ≠ '\'' := ne_of_isBlank hb rfl
  fun_induction plainMarks cs with
  | case1 =>
    rw [List.nil_append, plainMarks.eq_3 _ _ (fun _ h _ => hquote h), plainMark_of_isBlank hb]
    rfl
  | case2 cs ih => exact congrArg ('"' :: ·) ih
  | case3 c cs hpair ih =>
    have hlong : ∀ rest, c = '\'' → cs ++ b :: ds ≠ '\'' :: rest := by
      intro rest hc hrest
      obtain _ | ⟨d, cs⟩ := cs
      · exact hquote (List.cons.inj hrest).1
      · exact hpair cs hc (congrArg (· :: cs) (List.cons.inj hrest).1)
    rw [List.cons_append, plainMarks.eq_3 _ _ hlong, ih]
    rfl

theorem plainMarks_append_of_blank {bs : List Char} (hbs : ∀ c ∈ bs, isBlank c = true)
    (ds : List Char) : plainMarks (bs ++ ds) = bs ++ plainMarks ds := by
  induction bs with
  | nil => rfl
  | cons b bs ih =>
    obtain ⟨hb, hbs⟩ := List.forall_mem_cons.mp hbs
    have hcut := plainMarks_append_blank hb [] (bs ++ ds)
    rwa [List.nil_append, plainMarks_nil, List.nil_append, ih hbs] at hcut

theorem plainMarks_of_blank {bs : List Char} (hbs : ∀ c ∈ bs, isBlank c = true) :
    plainMarks bs = bs := by
  have hself := plainMarks_append_of_blank hbs []
  rwa [plainMarks_nil, List.append_nil] at hself

/-- A text without its leading blanks ends with what is trimmed at its end. -/
theorem exists_trim_append (cs : List Char) :
    ∃ bs : List Char, cs.dropWhile isBlank = trim cs ++ bs ∧ ∀ c ∈ bs, isBlank c = true := by
  refine ⟨((cs.dropWhile isBlank).reverse.takeWhile isBlank).reverse, ?_, fun c hc => ?_⟩
  · rw [trim, ← List.reverse_append, List.takeWhile_append_dropWhile, List.reverse_reverse]
  · exact List.all_eq_true.mp List.all_takeWhile c (List.mem_reverse.mp hc)

/-- Only the leading blanks of a text matter, and they only for the positions. -/
theorem ofText_eq_scan (text : String) :
    ofText text = scan 0 false (plainMarks (text.toList.dropWhile isBlank)) := by
  obtain ⟨bs, hcut, hbs⟩ := exists_trim_append text.toList
  rw [ofText, hcut]
  obtain _ | ⟨b, bs⟩ := bs
  · rw [List.append_nil]
  · rw [plainMarks_append_blank (List.forall_mem_cons.mp hbs).1,
      plainMarks_of_blank (List.forall_mem_cons.mp hbs).2, scan_append_of_blank _ hbs]

/-- Blanks alone have no tokens. -/
theorem ofText_of_blank {text : String} (h : ∀ c ∈ text.toList, isBlank c = true) :
    ofText text = .ok [] := by
  rw [ofText_eq_scan, List.dropWhile_eq_nil_iff.mpr h, plainMarks_nil, scan_nil]

/-- A text with tokens, or with a fault, has something else than blanks. -/
theorem exists_isBlank_eq_false {text : String} (h : ofText text ≠ .ok []) :
    ∃ c ∈ text.toList, isBlank c = false := by
  by_contra hnone
  refine h (ofText_of_blank fun c hc => ?_)
  exact Bool.eq_true_of_not_eq_false fun hblank => hnone ⟨c, hc, hblank⟩

/-- Blanks before a text have no effect. -/
theorem ofText_append_of_blank {front : String} (h : ∀ c ∈ front.toList, isBlank c = true)
    (back : String) : ofText (front ++ " " ++ back) = ofText back := by
  have hspace : ∀ c ∈ (front ++ " ").toList, isBlank c = true := by
    intro c hc
    rw [String.toList_append, List.mem_append] at hc
    rcases hc with hmem | hmem
    · exact h c hmem
    · rw [List.mem_singleton.mp hmem]
      rfl
  rw [ofText_eq_scan, ofText_eq_scan, String.toList_append, List.dropWhile_append,
    if_pos (List.isEmpty_iff.mpr (List.dropWhile_eq_nil_iff.mpr hspace))]

/-- What follows a text behind a space is scanned with the tokens of the text in view. -/
theorem ofText_append {front : String} (hfront : ∃ c ∈ front.toList, isBlank c = false)
    (back : String) :
    ofText (front ++ " " ++ back) = (ofText front).bind fun tokens =>
      (scan ((plainMarks (front.toList.dropWhile isBlank)).length + 1)
        (endsOperand false tokens) (plainMarks back.toList)).map (tokens ++ ·) := by
  have hspace : isBlank ' ' = true := rfl
  have hdrop : (front ++ " " ++ back).toList.dropWhile isBlank =
      front.toList.dropWhile isBlank ++ ' ' :: back.toList := by
    obtain ⟨c, hc, hblank⟩ := hfront
    have hne : front.toList.dropWhile isBlank ≠ [] := by
      intro hnil
      rw [List.dropWhile_eq_nil_iff.1 hnil c hc] at hblank
      cases hblank
    rw [String.toList_append, String.toList_append, List.append_assoc, List.dropWhile_append,
      if_neg (by rwa [List.isEmpty_iff])]
    rfl
  rw [ofText_eq_scan, ofText_eq_scan, hdrop, plainMarks_append_blank hspace,
    scan_append_blank hspace, Nat.zero_add]

/-- A text without tokens stays one, whatever follows behind a space. -/
theorem ofText_append_of_error {front : String} {fault : Fault} (h : ofText front = .error fault)
    (back : String) : ofText (front ++ " " ++ back) = .error fault := by
  have hfront : ofText front ≠ .ok [] := by
    rw [h]
    exact fun hok => nomatch hok
  rw [ofText_append (exists_isBlank_eq_false hfront), h]
  rfl

end Token

end TapeMeasure
