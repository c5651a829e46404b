import Restyle.Report.Summary
import Restyle.Text.Width

/-!
# Tables

A table has a header and rows, drawn with box characters. A column is as wide as its widest line
and a blank on either side; a cell of several lines makes its row as high as the cell with the most
lines. Nothing is broken to fit.

## Main definitions

* `Restyle.Table`, `Restyle.Table.lines`.
* `Restyle.Summary.table` — the table of a summary.
-/

namespace Restyle

/-- A table: its header and its rows, as texts of cells. -/
structure Table where
  header : List String
  rows : List (List String)

namespace Table

/-- The lines of a cell. -/
def cellLines (cell : String) : List String :=
  (splitLines cell.toList).map String.ofList
where
  /-- The stretches between line feeds. -/
  splitLines : List Char → List (List Char)
    | [] => [[]]
    | c :: cs =>
      if c = '\n' then [] :: splitLines cs
      else
        match splitLines cs with
        | [] => [[c]]
        | l :: ls => (c :: l) :: ls

/-- The width of a cell, which is that of its widest line. -/
def cellWidth (cell : String) : Nat := ((cellLines cell).map Text.width).foldl max 0

/-- The widths of the columns. -/
def widths (t : Table) : List Nat :=
  t.rows.foldl (fun ws row => List.zipWith max ws (row.map cellWidth)) (t.header.map cellWidth)

/-- A text `n` times. -/
def repeated (s : String) (n : Nat) : String := String.join (List.replicate n s)

/-- A line of a cell with a blank on either side, filled up to the width of its column. -/
def padded (line : String) (width : Nat) : String :=
  " " ++ line ++ repeated " " (width - Text.width line) ++ " "

/-- A line across the table, from its left end, its filling, its crossings and its right end. -/
def ruler (ws : List Nat) (left filling crossing right : String) : String :=
  left ++ crossing.intercalate (ws.map fun w => repeated filling (w + 2)) ++ right

/-- The lines of a cell in a row of a given height, below which there are empty ones. -/
def columnLines (height : Nat) (lines : List String) (width : Nat) : List String :=
  (lines ++ List.replicate (height - lines.length) "").map (padded · width)

/-- The lines of a row. -/
def rowLines (ws : List Nat) (row : List String) : List String :=
  let cells := row.map cellLines
  let height := (cells.map List.length).foldl max 0
  let columns := List.zipWith (columnLines height) cells ws
  let across := columns.foldr (List.zipWith (· :: ·)) (List.replicate height [])
  across.map fun pieces => "│" ++ "┆".intercalate pieces ++ "│"

/-- The lines of a table. -/
def lines (t : Table) : List String :=
  let ws := t.widths
  ruler ws "┌" "─" "┬" "┐" :: rowLines ws t.header ++ ruler ws "╞" "═" "╪" "╡" ::
    t.rows.flatMap (rowLines ws) ++ [ruler ws "└" "─" "┴" "┘"]

end Table

/-- The table of a summary: the count of each label, and the total. -/
def Summary.table (s : Summary) : Table where
  header := ["Source", "Files converted"]
  rows :=
    s.roots.map (fun (label, n) => [label ++ " converted", toString n.toNat]) ++
      [["Total files converted", toString s.total.toNat]]

end Restyle
