import Gamebook.Text.Split
import Gamebook.Text.Width

/-!
# Tables of plain text

A table has a header and rows of cells. A cell is shown on as many lines as it has, each column
is as wide as the widest line of its cells, and every line is aligned to the left with a space
on both sides.

* `Table.lines` lists the lines of a table.
* `padTo` fills a piece of a line up to the width of its column.
-/

namespace Gamebook.Console

/-- The lines of a cell. -/
def cellLines (cell : String) : List (List Char) := Text.splitAt '\n' cell.toList

/-- The columns that a cell takes: those of the widest of its `cellLines`. -/
def cellWidth (cell : String) : Nat :=
  (cellLines cell).foldl (fun widest line => max widest (Text.width line)) 0

/-- Fills a line with spaces up to a width, as `Text.width` counts it. -/
def padTo (columns : Nat) (line : List Char) : List Char :=
  line ++ List.replicate (columns - Text.width line) ' '

/-- A table: a header and rows of cells. -/
structure Table where
  header : List String
  rows : List (List String)

namespace Table

/-- The width of each column: the greatest `cellWidth` in it. -/
def widths (table : Table) : List Nat :=
  table.rows.foldl (fun widest row => List.zipWith max widest (row.map cellWidth))
    (table.header.map cellWidth)

/-- A line of one character under each column, with other characters at the ends and between
the columns. -/
def rule (left fill between right : Char) (widths : List Nat) : List Char :=
  left :: [between].intercalate (widths.map fun w => List.replicate (w + 2) fill) ++ [right]

/-- A line with a piece of each cell. -/
def textLine (widths : List Nat) (pieces : List (List Char)) : List Char :=
  '|' :: ['|'].intercalate
    (List.zipWith (fun w piece => ' ' :: padTo w piece ++ [' ']) widths pieces) ++ ['|']

/-- The lines of a row: as many as its highest cell has. -/
def rowLines (widths : List Nat) (row : List String) : List (List Char) :=
  let cells := row.map cellLines
  let height := cells.foldl (fun highest lines => max highest lines.length) 0
  (List.range height).map fun i => textLine widths (cells.map fun lines => lines[i]?.getD [])

/-- The lines of a `Table`. -/
def lines (table : Table) : List (List Char) :=
  let widths := table.widths
  let edge := rule '+' '-' '+' '+' widths
  let rows := table.rows.map (rowLines widths)
  [edge] ++ rowLines widths table.header ++ [rule '+' '=' '=' '+' widths] ++
    [rule '|' '-' '+' '|' widths].intercalate rows ++ [edge]

/-- The `Table.lines` as a text, each with a line feed. -/
def render (table : Table) : String :=
  .ofList (table.lines.flatMap (· ++ ['\n']))

end Table

end Gamebook.Console
