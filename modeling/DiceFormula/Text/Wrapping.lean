/-
# Fitting text into columns

How a text is laid out on a display of fixed width.  Controls that move the cursor
are left out, tabs fill up to the next multiple of eight columns, and a line that
is too long is broken before the first word that does not fit.  A word that fits on
no line is broken where the width is used up.
-/

import DiceFormula.Text.Blank
import DiceFormula.Text.Columns
import DiceFormula.Text.Lines

namespace DiceFormula.Text

/-- The controls that sound a bell or move the cursor: bell, backspace, vertical
tab, form feed and carriage return. -/
def isCursorControl (c : Char) : Bool :=
  let code := c.toNat
  code = 7 || code = 8 || code = 11 || code = 12 || code = 13

/-- A text without the controls that are never passed on. -/
def withoutControls (text : List Char) : List Char :=
  text.filter fun c => !isCursorControl c

def tabSize : Nat := 8

/-- Replaces tabs by space up to the next tab stop, one column at least, in a line
that begins at a column. -/
def expandTabsFrom (column : Nat) : List Char → List Char
  | [] => []
  | '\t' :: rest =>
    let width := tabSize - column % tabSize
    List.replicate width ' ' ++ expandTabsFrom (column + width) rest
  | c :: rest => c :: expandTabsFrom (column + charColumns c) rest

/-- Replaces tabs by space up to the next tab stop. -/
def expandTabs (line : List Char) : List Char :=
  expandTabsFrom 0 line

/-- The words of a line, each with the space around it that no word before it has. -/
def words (line : List Char) : List (List Char) :=
  let lead := line.takeWhile isBlank
  let body := (line.dropWhile isBlank).takeWhile (!isBlank ·)
  let rest := (line.dropWhile isBlank).dropWhile (!isBlank ·)
  let tail := rest.takeWhile isBlank
  if body.isEmpty then if lead.isEmpty then [] else [lead]
  else (lead ++ body ++ tail) :: words (rest.dropWhile isBlank)
termination_by line.length
decreasing_by
  rename_i nonempty
  have spaces := (List.dropWhile_sublist (l := line) isBlank).length_le
  have others := (List.dropWhile_sublist
    (l := (line.dropWhile isBlank).dropWhile (!isBlank ·)) isBlank).length_le
  have split := congrArg List.length
    (List.takeWhile_append_dropWhile (p := (!isBlank ·)) (l := line.dropWhile isBlank))
  rw [List.length_append] at split
  have positive : 0 < ((line.dropWhile isBlank).takeWhile (!isBlank ·)).length := by
    apply List.length_pos_iff.2
    intro none
    exact nonempty (List.isEmpty_iff.2 none)
  omega

/-- A word without the space behind it. -/
def withoutTail (word : List Char) : List Char :=
  (word.reverse.dropWhile isBlank).reverse

/-- Cuts a text where the width is used up.  `room` is what is left on the current
line. -/
def foldWord (width room : Nat) : List Char → List (List Char)
  | [] => [[]]
  | c :: rest =>
    let size := charColumns c
    if room < size then
      match foldWord width (width - size) rest with
      | [] => [[], [c]]
      | line :: others => [] :: (c :: line) :: others
    else
      match foldWord width (room - size) rest with
      | [] => [[c]]
      | line :: others => (c :: line) :: others

/-- Places words on lines.  `begun` is the line begun so far, its last character first,
and `used` the columns it takes. -/
def fillLines (width used : Nat) (begun : List Char) : List (List Char) → List (List Char)
  | [] => [begun.reverse]
  | word :: rest =>
    let size := columns (withoutTail word)
    if used + size ≤ width then
      fillLines width (used + columns word) (word.reverse ++ begun) rest
    else if width < size then
      let pieces := foldWord width width word
      let done := if begun.isEmpty then pieces.dropLast else begun.reverse :: pieces.dropLast
      let last := pieces.getLast?.getD []
      done ++ fillLines width (columns last) last.reverse rest
    else begun.reverse :: fillLines width (columns word) word.reverse rest

/-- Takes as much space off the end of a line as it is too long. -/
def dropExcess (width : Nat) (line : List Char) : List Char :=
  let tail := line.length - (withoutTail line).length
  line.take (line.length - min tail (line.length - width))

/-- The lines that a line takes up; a line that fits is left whole. -/
def wrapLine (width : Nat) (line : List Char) : List (List Char) :=
  let line := expandTabs line
  let filled := if columns line ≤ width then [line] else fillLines width 0 [] (words line)
  filled.map (dropExcess width)

def wrap (width : Nat) (text : List Char) : List (List Char) :=
  (lines (withoutControls text)).flatMap (wrapLine width)

/-- A line without tabs has nothing to be replaced. -/
theorem expandTabsFrom_eq_self {line : List Char} (noTab : '\t' ∉ line) (column : Nat) :
    expandTabsFrom column line = line := by
  induction line generalizing column with
  | nil => rfl
  | cons c rest ih =>
    rw [List.mem_cons, not_or] at noTab
    rw [expandTabsFrom, ih noTab.2]
    exact fun isTab => noTab.1 isTab.symm

/-- Nothing is taken off a line that is not too long. -/
theorem dropExcess_eq_self {width : Nat} {line : List Char} (fits : line.length ≤ width) :
    dropExcess width line = line := by
  simp only [dropExcess, Nat.sub_eq_zero_of_le fits, Nat.min_zero, Nat.sub_zero, List.take_length]

/-- The controls that are not passed on are not among the printable ASCII characters. -/
theorem withoutControls_eq_self {text : List Char} (plain : ∀ c ∈ text, isPlainAscii c = true) :
    withoutControls text = text := by
  refine List.filter_eq_self.2 fun c member => ?_
  have visible := (isPlainAscii_iff.1 (plain c member)).1
  simp only [isCursorControl, Bool.not_eq_true', Bool.or_eq_false_iff, decide_eq_false_iff_not]
  omega

/-- A text of printable ASCII characters that fits on one line is that line. -/
theorem wrap_of_isPlainAscii {width : Nat} {text : List Char} (fits : text.length ≤ width)
    (plain : ∀ c ∈ text, isPlainAscii c = true) : wrap width text = [text] := by
  have oneLine : lines text = [text] := by
    rw [lines, splitOn_eq]
    exact List.splitOn_eq_singleton fun member => absurd (plain _ member) (by decide)
  have noTab : expandTabs text = text :=
    expandTabsFrom_eq_self (fun member => absurd (plain _ member) (by decide)) 0
  have narrow : columns text ≤ width := by
    rw [columns_eq_length fun c member => charColumns_of_isPlainAscii (plain c member)]
    exact fits
  rw [wrap, withoutControls_eq_self plain, oneLine, List.flatMap_singleton, wrapLine]
  simp only [noTab, if_pos narrow, List.map_cons, List.map_nil, dropExcess_eq_self fits]

/-- A line in the middle of a width: what does not go up evenly stands to the right. -/
def centre (width : Nat) (line : List Char) : List Char :=
  let line := withoutTail line
  let left := (width - columns line) / 2
  let padded := List.replicate left ' ' ++ line
  padded ++ List.replicate (width - columns padded) ' '

end DiceFormula.Text
