/-!
# Texts split at a mark

Lists in settings and headers are texts with a mark between the items.  Joining the parts with the
mark gives the text back (`intercalate_splitAt`).
-/

namespace TapeMeasure.Text

/-- A text split at a character. -/
def splitAt (mark : Char) (cs : List Char) : List (List Char) :=
  cs.foldr
    (fun c parts =>
      if c = mark then [] :: parts
      else
        match parts with
        | [] => [[c]]
        | part :: parts => (c :: part) :: parts)
    [[]]

/-- Splitting a text loses nothing but the marks. -/
theorem intercalate_splitAt (mark : Char) (cs : List Char) :
    [mark].intercalate (splitAt mark cs) = cs := by
  induction cs with
  | nil => rfl
  | cons c cs ih =>
    have nonempty : splitAt mark cs ≠ [] := by
      cases cs with
      | nil => simp [splitAt]
      | cons d ds =>
        simp only [splitAt, List.foldr_cons]
        split
        · simp
        · split <;> simp
    have step : splitAt mark (c :: cs) =
        if c = mark then [] :: splitAt mark cs
        else
          match splitAt mark cs with
          | [] => [[c]]
          | part :: parts => (c :: part) :: parts := rfl
    rw [step]
    obtain ⟨part, parts, split⟩ := List.exists_cons_of_ne_nil nonempty
    rw [split] at ih ⊢
    split
    · rename_i same
      subst same
      cases parts <;> simp_all [List.intercalate]
    · cases parts <;> simp_all [List.intercalate]

end TapeMeasure.Text
