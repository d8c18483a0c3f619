/-!
# Pieces of text

A mark splits a text into pieces, one more than there are marks.

Main statement: `intercalate_pieces`, so that nothing but the marks is left out.
-/

namespace LoanDesk.Text

/-- The pieces of a text between the marks. -/
def pieces (mark : Char) : List Char → List (List Char)
  | [] => [[]]
  | c :: cs =>
    if c = mark then [] :: pieces mark cs
    else
      match pieces mark cs with
      | [] => [[c]]
      | piece :: others => (c :: piece) :: others

/-- A text has at least one piece. -/
theorem pieces_ne_nil (mark : Char) (cs : List Char) : pieces mark cs ≠ [] := by
  cases cs with
  | nil => exact List.cons_ne_nil _ _
  | cons c cs =>
    rw [pieces]
    split
    · exact List.cons_ne_nil _ _
    · split <;> exact List.cons_ne_nil _ _

/-- The pieces with the mark between them are the text. -/
theorem intercalate_pieces (mark : Char) (cs : List Char) :
    [mark].intercalate (pieces mark cs) = cs := by
  induction cs with
  | nil => rfl
  | cons c cs ih =>
    rw [pieces]
    obtain ⟨piece, others, h⟩ := List.exists_cons_of_ne_nil (pieces_ne_nil mark cs)
    rw [h] at ih ⊢
    split
    case isTrue hc =>
      rw [List.intercalate_cons_cons, ih, hc]
      rfl
    case isFalse =>
      cases others with
      | nil =>
        rw [List.intercalate_singleton] at ih ⊢
        rw [ih]
      | cons next others =>
        rw [List.intercalate_cons_cons] at ih ⊢
        rw [List.cons_append, List.cons_append, ih]

end LoanDesk.Text
