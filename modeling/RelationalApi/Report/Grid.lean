import RelationalApi.Text.Digits
import RelationalApi.Text.Width

/-!
# Grids of text

A grid has a header and rows of cells, drawn with lines of ASCII characters.  A column is as wide
as the widest line of any of its cells, and a row is as high as the highest of its cells.  A row
with fewer cells than there are columns has blank cells behind them.
-/

namespace RelationalApi

/-- A header and rows of cells, of which every one may have its own number of cells. -/
structure Grid where
  header : List String
  rows : List (List String)

namespace Grid

/-- The lines of a cell. -/
def cellLines (cell : String) : List String :=
  (Text.splitAtChar '\n' cell.toList).map String.ofList

/-- The greatest number of a list, and zero for no numbers. -/
def greatest (numbers : List Nat) : Nat :=
  numbers.foldl max 0

/-- The number of columns. -/
def columnCount (grid : Grid) : Nat :=
  greatest ((grid.header :: grid.rows).map List.length)

/-- The width of a cell. -/
def cellWidth (cell : String) : Nat :=
  greatest ((cellLines cell).map Text.width)

/-- The width of a column, which is at least one. -/
def columnWidth (grid : Grid) (column : Nat) : Nat :=
  max 1 <| greatest <| (grid.header :: grid.rows).filterMap fun row =>
    row[column]?.map cellWidth

/-- The widths of all columns. -/
def columnWidths (grid : Grid) : List Nat :=
  (List.range grid.columnCount).map grid.columnWidth

/-- A character many times. -/
def repeated (character : Char) (count : Nat) : String :=
  String.ofList (List.replicate count character)

/-- A line between rows, with a space on each side of a column covered. -/
def ruler (edge joint : String) (fill : Char) (widths : List Nat) : String :=
  edge ++ joint.intercalate (widths.map fun width => repeated fill (width + 2)) ++ edge

/-- A text with spaces up to a width. -/
def fillUp (width : Nat) (text : String) : String :=
  text ++ repeated ' ' (width - Text.width text)

/-- The lines of the cells of a row, one cell for every column.  A column that the row does not
reach has one blank line. -/
def rowCells (widths : List Nat) (row : List String) : List (List String) :=
  widths.mapIdx fun column _ => (row[column]?.map cellLines).getD [""]

/-- The line of a number in a row. -/
def rowLine (widths : List Nat) (cells : List (List String)) (number : Nat) : String :=
  let parts := List.zipWith
    (fun width lines => " " ++ fillUp width (lines[number]?.getD "") ++ " ") widths cells
  "|" ++ "|".intercalate parts ++ "|"

/-- The lines of a row.  Without columns there are none. -/
def rowLines (widths : List Nat) (row : List String) : List String :=
  let cells := rowCells widths row
  (List.range (greatest (cells.map List.length))).map (rowLine widths cells)

/-- The lines of all rows. -/
def bodyLines (widths : List Nat) : List (List String) → List String
  | [] => []
  | [row] => rowLines widths row
  | row :: rows => rowLines widths row ++ ruler "|" "+" '-' widths :: bodyLines widths rows

/-- The drawn grid. -/
def draw (grid : Grid) : String :=
  let widths := grid.columnWidths
  let border := ruler "+" "+" '-' widths
  "\n".intercalate <|
    [border] ++ rowLines widths grid.header ++ [ruler "+" "=" '=' widths] ++
      bodyLines widths grid.rows ++ [border]

end Grid
end RelationalApi
