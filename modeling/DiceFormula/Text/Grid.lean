/-
# Tables drawn with lines

A table is drawn with a box around its cells, heavy lines around the heading and
light ones around the rows.  A column is as wide as its longest cell, and every
cell has one space on both sides.  The caption stands above the box, broken to its
width and centred.  The display is taken to be at least as wide as the box; on a
narrower one the cells would be broken, which is not done here.
-/

import DiceFormula.Text.Wrapping

namespace DiceFormula.Text

/-- A column: its heading, and whether its cells stand to the right. -/
structure GridColumn where
  heading : List Char
  alignsRight : Bool

/-- A table with a caption.  Each row has a cell for each column. -/
structure Grid where
  caption : List Char
  columns : List GridColumn
  rows : List (List (List Char))

/-- The characters that draw one horizontal line, or one row: at its left end, along
its cells, between two cells and at its right end. -/
structure Stroke where
  left : Char
  along : Char
  cross : Char
  right : Char

namespace Stroke

def top : Stroke := ⟨'┏', '━', '┳', '┓'⟩

def head : Stroke := ⟨'┃', ' ', '┃', '┃'⟩

def divider : Stroke := ⟨'┡', '━', '╇', '┩'⟩

def body : Stroke := ⟨'│', ' ', '│', '│'⟩

def bottom : Stroke := ⟨'└', '─', '┴', '┘'⟩

/-- Draws cells that already have their full width. -/
def draw (stroke : Stroke) (cells : List (List Char)) : List Char :=
  stroke.left :: List.intercalate [stroke.cross] cells ++ [stroke.right]

/-- Draws a line across cells of the given widths. -/
def line (stroke : Stroke) (widths : List Nat) : List Char :=
  stroke.draw (widths.map fun width => List.replicate (width + 2) stroke.along)

end Stroke

namespace Grid

/-- The width of the widest cell at a place in the rows. -/
def widthAt (rows : List (List (List Char))) (place : Nat) : Nat :=
  rows.foldl (fun width row => max width (Text.columns (row.getD place []))) 0

/-- The widths of the columns, spaces left out. -/
def widths (grid : Grid) : List Nat :=
  (List.range grid.columns.length).map
    (widthAt (grid.columns.map GridColumn.heading :: grid.rows))

/-- A cell filled up to its width, with a space on both sides. -/
def cell (column : GridColumn) (width : Nat) (text : List Char) : List Char :=
  let filling := List.replicate (width - Text.columns text) ' '
  ' ' :: (if column.alignsRight then filling ++ text else text ++ filling) ++ [' ']

/-- The cells of a row, filled up to the widths of their columns. -/
def rowCells (columns : List GridColumn) (widths : List Nat) (row : List (List Char)) :
    List (List Char) :=
  ((columns.zip widths).zip row).map fun ((column, width), text) => cell column width text

/-- The width of a box: its cells with their spaces, and a line at the left of each and
at the right of the last. -/
def boxWidth (widths : List Nat) : Nat :=
  widths.foldl (fun total width => total + width + 3) 1

def captionLines (width : Nat) (caption : List Char) : List (List Char) :=
  (wrap width caption).map (centre width)

def lines (grid : Grid) : List (List Char) :=
  let widths := grid.widths
  let cells := rowCells grid.columns widths
  captionLines (boxWidth widths) grid.caption ++
    Stroke.top.line widths :: Stroke.head.draw (cells (grid.columns.map GridColumn.heading)) ::
    Stroke.divider.line widths :: grid.rows.map (fun row => Stroke.body.draw (cells row)) ++
    [Stroke.bottom.line widths]

end Grid

end DiceFormula.Text
