import CommandLink.Text.Width

/-! # Boxed tables

A header and one row between box-drawing lines. A cell may have several lines; each column is as
wide as its widest line, with a space on either side. -/

namespace CommandLink
namespace Table

/-- The lines of a cell. -/
def cellLines (cell : String) : List (List Char) :=
  cell.toList.splitOn '\n'

/-- The columns that a cell takes. -/
def cellWidth (cell : String) : Nat :=
  (cellLines cell).foldl (fun w line => max w (textWidth line)) 0

/-- A horizontal line through cells of the given widths. -/
def rule (left fill cross right : Char) (widths : List Nat) : List Char :=
  let spans := widths.map fun w => List.replicate (w + 2) fill
  left :: (List.intercalate [cross] spans ++ [right])

/-- A line of text in a cell, filled up to the cell's width. -/
def padded (width : Nat) (line : List Char) : List Char :=
  ' ' :: (line ++ List.replicate (width - textWidth line) ' ' ++ [' '])

/-- The lines of a row of cells. -/
def rowLines (widths : List Nat) (cells : List String) : List (List Char) :=
  let lines := cells.map cellLines
  let height := lines.foldl (fun h l => max h l.length) 0
  (List.range height).map fun i =>
    let parts := (widths.zip lines).map fun (w, l) => padded w ((l[i]?).getD [])
    '│' :: (List.intercalate ['┆'] parts ++ ['│'])

/-- The table of a header and one row. -/
def render (header row : List String) : String :=
  let widths := (header.zip row).map fun (h, r) => max (cellWidth h) (cellWidth r)
  let lines :=
    [rule '┌' '─' '┬' '┐' widths] ++ rowLines widths header ++ [rule '╞' '═' '╪' '╡' widths]
      ++ rowLines widths row ++ [rule '└' '─' '┴' '┘' widths]
  String.ofList (lines.flatMap (· ++ ['\n']))

end Table
end CommandLink
