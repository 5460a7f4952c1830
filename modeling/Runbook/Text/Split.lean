/-!
# Splitting at a character

The pieces between the occurrences of a character. There is always one piece more than there are
occurrences, and putting the character back between the pieces restores the text.
-/

namespace Runbook.Text

/-- The pieces between the occurrences of `sep`. -/
def pieces (sep : Char) : List Char → List (List Char)
  | [] => [[]]
  | c :: cs =>
    if c = sep then [] :: pieces sep cs
    else match pieces sep cs with
      | p :: ps => (c :: p) :: ps
      | [] => [[c]]

/-- The pieces of a text between the occurrences of `sep`. -/
def splitAt (sep : Char) (text : String) : List String :=
  (pieces sep text.toList).map String.ofList

/-- There is at least one piece. -/
theorem pieces_ne_nil (sep : Char) (cs : List Char) : pieces sep cs ≠ [] := by
  cases cs with
  | nil => simp [pieces]
  | cons c cs => simp only [pieces]; split <;> (try split) <;> simp

/-- One piece more than occurrences of the separator. -/
theorem length_pieces (sep : Char) (cs : List Char) :
    (pieces sep cs).length = cs.count sep + 1 := by
  induction cs with
  | nil => simp [pieces]
  | cons c cs ih =>
    unfold pieces
    by_cases h : c = sep
    · simp [h, ih]
    · rw [if_neg h]
      split
      · rename_i hp
        simp [hp] at ih
        simp [h, ih]
      · rename_i hp
        exact absurd hp (pieces_ne_nil sep cs)

/-- Putting the separator back between the pieces restores the text. -/
theorem intercalate_pieces (sep : Char) (cs : List Char) :
    [sep].intercalate (pieces sep cs) = cs := by
  induction cs with
  | nil => simp [pieces, List.intercalate]
  | cons c cs ih =>
    unfold pieces
    by_cases h : c = sep
    · rw [if_pos h]
      cases hp : pieces sep cs with
      | nil => exact absurd hp (pieces_ne_nil sep cs)
      | cons p ps => rw [hp] at ih; simp [List.intercalate, h] at ih ⊢; exact ih
    · rw [if_neg h]
      cases hp : pieces sep cs with
      | nil => exact absurd hp (pieces_ne_nil sep cs)
      | cons p ps =>
        rw [hp] at ih
        cases ps <;> simp [List.intercalate] at ih ⊢ <;> exact ih

end Runbook.Text
