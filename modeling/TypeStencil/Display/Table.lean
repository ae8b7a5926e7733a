import TypeStencil.Display.Wrap

/-!
Tables in a box with rounded corners, as wide as their cells need and no wider than the terminal. A
cell may take several lines; all cells of a row are as high as its highest.
-/
namespace TypeStencil

/-- The shown text of a cell. -/
abbrev Cell := List Char

structure Table where
  title : List Char
  header : List Cell
  rows : List (List Cell)
  deriving Repr

namespace Table

def spaces (n : Nat) : List Char :=
  List.replicate n ' '

/-- The spaces on both sides of a cell. -/
def margins : Nat := 2

/-- The width that a cell needs if it is not broken into more lines than it has. -/
def cellWidth (c : Cell) : Nat :=
  ((Text.splitAllBreaks c).map Text.width).foldl max 0

/-- The width of each column is that of its widest cell with the spaces around it, if there is that
much room. -/
def neededWidths (room : Nat) (t : Table) : List Nat :=
  let widths := t.rows.foldl (fun widths row => List.zipWith max widths (row.map cellWidth))
    (t.header.map cellWidth)
  widths.map fun w => min (w + margins) room

/-- The greatest width up to `most` that no column may exceed if all are to find room. -/
def widthLimit (room : Nat) (widths : List Nat) (most : Nat) : Nat :=
  match most with
  | 0 => 0
  | n + 1 =>
    if (widths.map (min (n + 1))).sum ≤ room then n + 1 else widthLimit room widths n

/-- The cells of a row that lines between and around the columns take. -/
def frameWidth (t : Table) : Nat :=
  t.header.length + 1

/-- The widths of the columns on a terminal; where it has no room for all, the widest give way. -/
def columnWidths (width : Nat) (t : Table) : List Nat :=
  let room := width - t.frameWidth
  let widths := t.neededWidths room
  widths.map (min (widthLimit room widths room))

/-- A line of the box between or around rows. -/
def border (left middle right : Char) (widths : List Nat) : List Char :=
  left :: Text.joinWith [middle] (widths.map fun w => List.replicate w '─') ++ [right]

/-- A line of a cell with a space on either side and filled up to the width of its column. -/
def padded (width : Nat) (line : List Char) : List Char :=
  ' ' :: line ++ spaces (width - margins - Text.width line) ++ [' ']

/-- A row of the table, line by line. -/
def rowLines (widths : List Nat) (row : List Cell) : List (List Char) :=
  let cells := List.zipWith (fun w c => Display.wrap .ellipsis (w - margins) c) widths row
  (List.range ((cells.map List.length).foldl max 1)).map fun n =>
    '│' :: Text.joinWith ['│'] (List.zipWith (fun w c => padded w (c.getD n [])) widths cells) ++
      ['│']

/-- Puts a line into the middle of a width, nearer to the left where it cannot be exact. -/
def centred (width : Nat) (line : List Char) : List Char :=
  spaces ((width - Text.width line) / 2) ++ line

def lines (width : Nat) (t : Table) : List (List Char) :=
  let widths := t.columnWidths width
  centred (widths.foldl (· + ·) t.frameWidth) t.title :: border '╭' '┬' '╮' widths ::
    rowLines widths t.header ++ border '├' '┼' '┤' widths ::
    t.rows.flatMap (rowLines widths) ++ [border '╰' '┴' '╯' widths]

end Table

end TypeStencil
