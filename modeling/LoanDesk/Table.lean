import LoanDesk.Text.Pieces
import LoanDesk.Text.Width

/-!
# Tables

A table has a header and rows, drawn in a frame.  A column is as wide as its widest line, with one
space on both sides of it; a cell of several lines makes its row as high.

Main statement: `width_le_cellWidth`, so that with `Text.width_pad` no line leaves its column.
-/

namespace LoanDesk

/-- A table, whose rows have a cell for each of the header. -/
structure Table where
  header : List String
  rows : List (List String)

namespace Table

/-- The lines of a text. -/
def lines (cs : List Char) : List (List Char) := Text.pieces '\n' cs

/-- The width of the widest line of a cell. -/
def cellWidth (cell : String) : Nat := ((lines cell.toList).map Text.width).foldr max 0

/-- No line of a cell is wider than the cell. -/
theorem width_le_cellWidth {cell : String} {line : List Char} (h : line ∈ lines cell.toList) :
    Text.width line ≤ cellWidth cell := by
  rw [cellWidth]
  generalize lines cell.toList = drawn at h
  induction drawn with
  | nil => cases h
  | cons first others ih =>
    rw [List.map_cons, List.foldr_cons]
    rcases List.mem_cons.1 h with rfl | h
    · exact Nat.le_max_left _ _
    · exact Nat.le_trans (ih h) (Nat.le_max_right _ _)

/-- The widths of the columns, where `widths` are wide enough for the rows above. -/
def widen (widths : List Nat) (rows : List (List String)) : List Nat :=
  rows.foldl (fun widths row => List.zipWith max widths (row.map cellWidth)) widths

/-- The widths of the columns. -/
def columnWidths (t : Table) : List Nat := widen (t.header.map cellWidth) t.rows

/-- The characters of a line that frames or parts rows. -/
structure Rule where
  left : Char
  fill : Char
  cross : Char
  right : Char

/-- The line that a rule draws over the columns. -/
def Rule.draw (r : Rule) (widths : List Nat) : List Char :=
  r.left :: [r.cross].intercalate (widths.map fun w => List.replicate (w + 2) r.fill) ++ [r.right]

/-- The line above the header. -/
def topRule : Rule := ⟨'┌', '─', '┬', '┐'⟩

/-- The line between the header and the rows. -/
def headerRule : Rule := ⟨'╞', '═', '╪', '╡'⟩

/-- The line between two rows. -/
def rowRule : Rule := ⟨'├', '╌', '┼', '┤'⟩

/-- The line below the last row. -/
def bottomRule : Rule := ⟨'└', '─', '┴', '┘'⟩

/-- A line of text in every column. -/
def drawLine (cells : List (List Char)) : List Char :=
  '│' :: ' ' :: [' ', '┆', ' '].intercalate cells ++ [' ', '│']

/-- The lines of a row. -/
def drawRow (widths : List Nat) (row : List String) : List (List Char) :=
  let cells := row.map fun cell => lines cell.toList
  let height := (cells.map List.length).foldr max 0
  (List.range height).map fun i =>
    drawLine (List.zipWith (fun w cell => Text.pad w (cell[i]?.getD [])) widths cells)

/-- The lines of the rows with those between them. -/
def drawRows (widths : List Nat) : List (List String) → List (List Char)
  | [] => []
  | [row] => drawRow widths row
  | row :: rows => drawRow widths row ++ rowRule.draw widths :: drawRows widths rows

/-- The lines of a table. -/
def draw (t : Table) : List (List Char) :=
  let widths := t.columnWidths
  topRule.draw widths :: drawRow widths t.header ++ headerRule.draw widths ::
    drawRows widths t.rows ++ [bottomRule.draw widths]

/-- The text of a table, which ends in the end of a line. -/
def render (t : Table) : String := String.ofList (t.draw.flatMap fun line => line ++ ['\n'])

end Table

end LoanDesk
