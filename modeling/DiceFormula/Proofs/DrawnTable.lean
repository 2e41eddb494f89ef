/-
# Reading a table off its drawing

The rows of a table are drawn between bars, and space is put around their cells.  If there is no
bar and no blank in any cell, the rows can be read off the display again: they are the lines that
begin with a bar, and their cells are what can be seen between the bars.
-/

import DiceFormula.Proofs.WrappedText
import DiceFormula.Text.Grid

namespace DiceFormula.Text.Grid

/-- The cells on a line of the display. -/
def readCells (line : List Char) : List (List Char) :=
  (line.tail.dropLast.splitOn '│').map visible

/-- The rows on a display: the lines that begin with a bar. -/
def readRows (lines : List (List Char)) : List (List (List Char)) :=
  (lines.filter fun line => line.head? = some '│').map readCells

theorem readRows_append (above below : List (List Char)) :
    readRows (above ++ below) = readRows above ++ readRows below := by
  rw [readRows, List.filter_append, List.map_append]
  rfl

/-- Where no line begins with a bar there are no rows. -/
theorem readRows_eq_nil {lines : List (List Char)}
    (noBar : ∀ line ∈ lines, line.head? ≠ some '│') : readRows lines = [] := by
  have none : (lines.filter fun line => line.head? = some '│') = [] :=
    List.filter_eq_nil_iff.2 fun line member => by simp [noBar line member]
  rw [readRows, none, List.map_nil]

/-- The rows have a cell for each column, and there is no bar but those of the drawing. -/
structure Readable (grid : Grid) : Prop where
  columns : grid.columns ≠ []
  full : ∀ row ∈ grid.rows, row.length = grid.columns.length
  cells : ∀ row ∈ grid.rows, ∀ cell ∈ row, ∀ c ∈ cell, isBlank c = false ∧ c ≠ '│'
  caption : '│' ∉ grid.caption

theorem mem_of_mem_cell {column : GridColumn} {width : Nat} {text : List Char} {c : Char}
    (member : c ∈ cell column width text) : c = ' ' ∨ c ∈ text := by
  have space : ∀ {count : Nat}, c ∈ List.replicate count ' ' → c = ' ' := List.eq_of_mem_replicate
  rw [cell] at member
  rcases List.mem_cons.1 member with first | member
  · exact .inl first
  · rcases List.mem_append.1 member with inside | last
    · by_cases right : column.alignsRight = true
      · rw [if_pos right] at inside
        exact (List.mem_append.1 inside).imp_left space
      · rw [if_neg right] at inside
        exact (List.mem_append.1 inside).symm.imp_left space
    · exact .inl (List.mem_singleton.1 last)

/-- What can be seen of a cell is its text. -/
theorem visible_cell (column : GridColumn) (width : Nat) (text : List Char) :
    visible (cell column width text) = visible text := by
  have first : visible [' '] = [] := rfl
  rw [cell, ← List.singleton_append, visible_append, visible_append, first, List.append_nil,
    List.nil_append]
  by_cases right : column.alignsRight = true
  · rw [if_pos right, visible_append, visible_replicate_space, List.nil_append]
  · rw [if_neg right, visible_append, visible_replicate_space, List.append_nil]

/-- Between the bars of a row there are its cells. -/
theorem readCells_draw {cells : List (List Char)} (nonempty : cells ≠ [])
    (noBar : ∀ cell ∈ cells, '│' ∉ cell) :
    readCells (Stroke.body.draw cells) = cells.map visible := by
  have between : (Stroke.body.draw cells).tail.dropLast = ['│'].intercalate cells :=
    List.dropLast_concat
  rw [readCells, between, List.splitOn_intercalate '│' noBar nonempty]

variable {grid : Grid}

theorem length_widths (grid : Grid) : grid.widths.length = grid.columns.length := by
  rw [widths, List.length_map, List.length_range]

/-- A row is read off the line it is drawn on. -/
theorem Readable.readCells_row (readable : grid.Readable) {row : List (List Char)}
    (isRow : row ∈ grid.rows) :
    readCells (Stroke.body.draw (rowCells grid.columns grid.widths row)) = row := by
  have places : (grid.columns.zip grid.widths).length = row.length := by
    rw [List.length_zip, length_widths, Nat.min_self, readable.full row isRow]
  have nonempty : rowCells grid.columns grid.widths row ≠ [] := by
    intro none
    have length := congrArg List.length none
    rw [rowCells, List.length_map, List.length_zip, places, Nat.min_self,
      readable.full row isRow] at length
    exact readable.columns (List.length_eq_zero_iff.1 length)
  have noBar : ∀ cell ∈ rowCells grid.columns grid.widths row, '│' ∉ cell := by
    intro drawn isDrawn bar
    rw [rowCells, List.mem_map] at isDrawn
    obtain ⟨⟨place, text⟩, isPlace, rfl⟩ := isDrawn
    rcases mem_of_mem_cell bar with isSpace | inText
    · exact absurd isSpace (by decide)
    · exact (readable.cells row isRow text (List.of_mem_zip isPlace).2 '│' inText).2 rfl
  have texts : ∀ text ∈ row, visible text = text := fun text isText =>
    visible_eq_self fun c member => (readable.cells row isRow text isText c member).1
  calc readCells (Stroke.body.draw (rowCells grid.columns grid.widths row))
      = (rowCells grid.columns grid.widths row).map visible := readCells_draw nonempty noBar
    _ = (((grid.columns.zip grid.widths).zip row).map Prod.snd).map visible := by
        rw [rowCells, List.map_map, List.map_map]
        exact List.map_congr_left fun place _ => visible_cell _ _ _
    _ = row := by
        rw [List.map_snd_zip (Nat.le_of_eq places.symm), List.map_congr_left texts, List.map_id']

/-- No line of the caption begins with a bar. -/
theorem readRows_captionLines {caption : List Char} (noBar : '│' ∉ caption) (width : Nat) :
    readRows (captionLines width caption) = [] := by
  refine readRows_eq_nil fun line isLine first => noBar ?_
  rw [captionLines, List.mem_map] at isLine
  obtain ⟨wrapped, isWrapped, rfl⟩ := isLine
  have bar : '│' ∈ centre width wrapped := List.mem_of_mem_head? first
  have noSpace : ∀ {count : Nat}, '│' ∉ List.replicate count ' ' := fun member =>
    absurd (List.eq_of_mem_replicate member) (by decide)
  obtain ⟨tail, whole, -⟩ := exists_tail wrapped
  refine mem_of_mem_wrap isWrapped ?_ (by decide)
  rw [whole, List.mem_append]
  refine .inl ?_
  simpa [centre, noSpace] using bar

/-- The lines of the frame do not begin with a bar of the kind that the rows begin with. -/
theorem readRows_frame (widths : List Nat) (headings : List (List Char)) :
    readRows [Stroke.top.line widths, Stroke.head.draw headings, Stroke.divider.line widths] = [] ∧
    readRows [Stroke.bottom.line widths] = [] :=
  ⟨rfl, rfl⟩

/-- The rows of a table are read off its drawing. -/
theorem Readable.readRows_lines (readable : grid.Readable) : readRows grid.lines = grid.rows := by
  let drawn (row : List (List Char)) := Stroke.body.draw (rowCells grid.columns grid.widths row)
  have rows : readRows (grid.rows.map drawn) = grid.rows := by
    have all : ((grid.rows.map drawn).filter fun line => line.head? = some '│') =
        grid.rows.map drawn := by
      refine List.filter_eq_self.2 fun line isLine => ?_
      obtain ⟨row, -, rfl⟩ := List.mem_map.1 isLine
      rfl
    rw [readRows, all, List.map_map]
    exact (List.map_congr_left fun row isRow => readable.readCells_row isRow).trans (List.map_id _)
  obtain ⟨above, below⟩ := readRows_frame grid.widths
    (rowCells grid.columns grid.widths (grid.columns.map GridColumn.heading))
  have parts : grid.lines = captionLines (boxWidth grid.widths) grid.caption ++
      ([Stroke.top.line grid.widths,
        Stroke.head.draw (rowCells grid.columns grid.widths (grid.columns.map GridColumn.heading)),
        Stroke.divider.line grid.widths] ++ grid.rows.map drawn) ++
      [Stroke.bottom.line grid.widths] := rfl
  rw [parts, readRows_append, readRows_append, readRows_append, below, above, rows,
    readRows_captionLines readable.caption, List.nil_append, List.nil_append, List.append_nil]

end DiceFormula.Text.Grid
