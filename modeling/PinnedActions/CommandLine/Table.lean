import PinnedActions.Text.Blank
import PinnedActions.Text.Utf8

/-!
# Tables

A table is printed as a line of headings, a line of dashes, and a line for every row.  A column is as
wide as its longest cell is in bytes, cells are filled up by characters, and two spaces stand between
neighbours.  Blanks at the end of a line are left out, save on the line of dashes.  There is no limit
to the width of a column.
-/

set_option autoImplicit false

namespace PinnedActions

namespace Table

/-- How wide a cell wants its column to be. -/
def cellWidth (cell : Text) : Nat := (Utf8.encode cell).length

/-- How wide the columns are, the headings being the first row. -/
def widths (headings : List Text) (rows : List (List Text)) : List Nat :=
  rows.foldl (fun widest row => List.zipWith max widest (row.map cellWidth))
    (headings.map cellWidth)

/-- A cell filled up with spaces. -/
def pad (width : Nat) (cell : Text) : Text :=
  cell ++ List.replicate (width - cell.length) ' '

/-- What stands between neighbours. -/
def gap : Text := [' ', ' ']

/-- The line for a row. -/
def line (columns : List Nat) (row : List Text) : Text :=
  Text.trimEnd (Text.join gap (List.zipWith pad columns row))

/-- The line of dashes. -/
def rule (columns : List Nat) : Text := Text.join gap (columns.map (List.replicate · '-'))

/-- The lines of a table. -/
def lines (headings : List Text) (rows : List (List Text)) : List Text :=
  let columns := widths headings rows
  line columns headings :: rule columns :: rows.map (line columns)

end Table

end PinnedActions
