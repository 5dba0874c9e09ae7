import LinkSearch.Text.Line
import LinkSearch.Text.Width

/-!
# Grids

A grid shows rows of cells in columns, with a heading set apart by a double line.  A column is as
wide as the widest line in it, measured in the columns of a terminal, and a cell with line feeds
takes as many lines as it needs.
-/

namespace LinkSearch.Output

open LinkSearch.Text

/-- A heading and the rows below it, all with the same number of cells. -/
structure Grid where
  heading : List String
  rows : List (List String)

namespace Grid

/-- The width of a cell: that of its widest line. -/
def cellWidth (cell : String) : Nat :=
  ((cutLines cell).map width).foldl max 0

def columnWidths (grid : Grid) : List Nat :=
  grid.rows.foldl (fun widths row => List.zipWith max widths (row.map cellWidth))
    (grid.heading.map cellWidth)

/-- A line with a space on either side and more on the right to fill its column. -/
def fill (columnWidth : Nat) (line : String) : String :=
  " " ++ line ++ String.ofList (List.replicate (columnWidth - width line + 1) ' ')

/-- One line of a row: a border, the parts and a border. -/
def bordered (parts : List String) : String :=
  "│" ++ "┆".intercalate parts ++ "│"

/-- The lines of a row; every cell is extended by empty lines to the height of the highest. -/
def rowLines (widths : List Nat) (row : List String) : List String :=
  let cells := row.map cutLines
  let height := (cells.map List.length).foldl max 0
  (List.range height).map fun i =>
    bordered <| List.zipWith (fun columnWidth lines => fill columnWidth (lines.getD i ""))
      widths cells

/-- A line across the whole grid. -/
def rule (widths : List Nat) (left stroke crossing right : String) : String :=
  left ++ crossing.intercalate (widths.map fun columnWidth =>
    String.join (List.replicate (columnWidth + 2) stroke)) ++ right

def lines (grid : Grid) : List String :=
  let widths := grid.columnWidths
  [rule widths "┌" "─" "┬" "┐"] ++ rowLines widths grid.heading ++
    [rule widths "╞" "═" "╪" "╡"] ++ grid.rows.flatMap (rowLines widths) ++
    [rule widths "└" "─" "┴" "┘"]

/-- The grid as a text without a line feed at its end. -/
def text (grid : Grid) : String :=
  "\n".intercalate grid.lines

end Grid

end LinkSearch.Output
