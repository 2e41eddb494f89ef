/-
# The table of a formula

The rows of a table are made by going along the steps of a formula and counting.  Row by row
the table is compared with the terms and the operators, which are found at every other place
of it, and column by column with the canonical text, the identifiers and the rolls.  Nothing
is lost in the table: its texts, a space between each two, are read as the formula again.

What is printed is the table as it is drawn, and the summary below it.  The rows of the table are
read off the printed lines again.
-/

import DiceFormula.CommandLine.Program
import DiceFormula.Proofs.CanonicalText
import DiceFormula.Proofs.DrawnTable
import DiceFormula.Proofs.PlainText

namespace DiceFormula

/-- The cells at one place of the rows, from top to bottom. -/
def Text.Grid.cellsAt (grid : Grid) (place : Nat) : List (List Char) :=
  grid.rows.map fun row => row.getD place []

/-- Joined pieces begin with the first of them; the others follow with the separator before
each. -/
theorem Text.intercalate_cons (separator first : List Char) (rest : List (List Char)) :
    separator.intercalate (first :: rest) = first ++ rest.flatMap (separator ++ ·) := by
  induction rest generalizing first with
  | nil => rw [List.intercalate_singleton, List.flatMap_nil, List.append_nil]
  | cons piece others ih =>
      rw [List.intercalate_cons_cons, ih, List.flatMap_cons, List.append_assoc, List.append_assoc]

/-- Joined pieces have no characters but theirs and those of the separator. -/
theorem Text.mem_of_mem_intercalate {separator : List Char} {pieces : List (List Char)} {c : Char}
    (member : c ∈ separator.intercalate pieces) : c ∈ separator ∨ ∃ piece ∈ pieces, c ∈ piece := by
  cases pieces with
  | nil =>
      rw [List.intercalate_nil] at member
      cases member
  | cons first rest =>
      rw [intercalate_cons, List.mem_append, List.mem_flatMap] at member
      rcases member with inFirst | ⟨piece, others, inPiece⟩
      · exact .inr ⟨first, List.mem_cons_self, inFirst⟩
      · refine (List.mem_append.1 inPiece).imp_right fun inPiece => ?_
        exact ⟨piece, List.mem_cons_of_mem first others, inPiece⟩

namespace Term

/-- There are three kinds, one for each sort of terms. -/
theorem kind_iff (term : Term) :
    (term.kind = "roll" ↔ ∃ count faces, term = .roll count faces) ∧
    (term.kind = "integer" ↔ ∃ value, term = .literal value) ∧
    (term.kind = "identifier" ↔ ∃ name, term = .identifier name) := by
  cases term with
  | roll count faces => simp [kind]
  | literal value => simp [kind]
  | identifier name => simp [kind]

theorem kind_eq_roll_iff {term : Term} : term.kind = "roll" ↔ term.isRoll = true := by
  cases term with
  | roll count faces => simp [kind, isRoll]
  | literal value => simp [kind, isRoll]
  | identifier name => simp [kind, isRoll]

end Term

namespace Formula

section Rows

variable (number : Nat) (steps : List (Operator × Term))

theorem length_stepRows : (stepRows number steps).length = 2 * steps.length := by
  induction steps generalizing number with
  | nil => rfl
  | cons step rest ih =>
      simp only [stepRows, List.length_cons, ih]
      omega

/-- Operators and terms take turns, and the terms are counted on. -/
theorem getElem?_stepRows (place : Nat) :
    (stepRows number steps)[2 * place]? = (steps[place]?).map (fun step => step.1.row) ∧
    (stepRows number steps)[2 * place + 1]? =
      (steps[place]?).map fun step => step.2.row (number + place) := by
  induction steps generalizing number place with
  | nil => exact ⟨rfl, rfl⟩
  | cons step rest ih =>
      cases place with
      | zero => exact ⟨rfl, rfl⟩
      | succ place =>
          obtain ⟨op, term⟩ := step
          have shifted : 2 * (place + 1) = 2 * place + 1 + 1 := Nat.mul_succ 2 place
          have counted : number + (place + 1) = number + 1 + place := by omega
          simp only [stepRows, shifted, counted, List.getElem?_cons_succ]
          exact ih (number + 1) place

/-- The texts of the rows, with a space before each, are the steps as they are written. -/
theorem flatMap_text_stepRows :
    (stepRows number steps).flatMap (fun row => ' ' :: row.text.toList) =
      steps.flatMap stepChars := by
  induction steps generalizing number with
  | nil => rfl
  | cons step rest ih =>
      obtain ⟨op, term⟩ := step
      simp only [stepRows, List.flatMap_cons, ih, Operator.row, Term.row, Term.text, stepChars,
        String.toList_ofList, String.toList_singleton]
      rfl

/-- Each row is that of a term or that of an operator. -/
theorem exists_of_mem_stepRows {row : FormulaRow} (isRow : row ∈ stepRows number steps) :
    (∃ (term : Term) (place : Nat), row = term.row place) ∨ ∃ op : Operator, row = op.row := by
  induction steps generalizing number with
  | nil => cases isRow
  | cons step rest ih =>
      obtain ⟨op, term⟩ := step
      rcases List.mem_cons.1 isRow with rfl | isRow
      · exact .inr ⟨op, rfl⟩
      · rcases List.mem_cons.1 isRow with rfl | isRow
        · exact .inl ⟨term, number, rfl⟩
        · exact ih (number + 1) isRow

/-- The rows that show rolls are those of the rolls. -/
theorem kind_mem_stepRows :
    "roll" ∈ (stepRows number steps).map FormulaRow.kind ↔
      ∃ term ∈ steps.map Prod.snd, term.isRoll = true := by
  induction steps generalizing number with
  | nil => simp [stepRows]
  | cons step rest ih =>
      obtain ⟨op, term⟩ := step
      simp [stepRows, ih, Operator.row, Term.row, eq_comm (a := "roll"), Term.kind_eq_roll_iff]

end Rows

section Table

variable (formula : Formula)

/-- There is a row for each term and one between each two terms. -/
theorem length_rows : formula.rows.length = 2 * formula.terms.length - 1 := by
  rw [rows, List.length_cons, length_stepRows, terms, List.length_cons, List.length_map]
  omega

theorem getElem?_rows_term (place : Nat) :
    formula.rows[2 * place]? = (formula.terms[place]?).map fun term => term.row place := by
  cases place with
  | zero => rfl
  | succ place =>
      have termRow := (getElem?_stepRows 1 formula.steps place).2
      rw [Nat.add_comm 1] at termRow
      rw [terms, List.getElem?_cons_succ, List.getElem?_map, Option.map_map]
      exact termRow

theorem getElem?_rows_operator (place : Nat) :
    formula.rows[2 * place + 1]? = (formula.operators[place]?).map Operator.row := by
  rw [rows, List.getElem?_cons_succ, (getElem?_stepRows 1 formula.steps place).1, operators,
    List.getElem?_map, Option.map_map]
  rfl

/-- The texts of the rows, a space between each two, are the canonical text. -/
theorem intercalate_rows :
    [' '].intercalate (formula.rows.map fun row => row.text.toList) = formula.chars := by
  have behind := flatMap_text_stepRows 1 formula.steps
  rw [rows, List.map_cons, Text.intercalate_cons, List.flatMap_map, Term.row, Term.text,
    String.toList_ofList, chars, ← behind]
  rfl

/-- A formula draws nothing exactly if no row shows a roll. -/
theorem isDeterministic_iff_rows :
    formula.isDeterministic = true ↔ "roll" ∉ formula.rows.map FormulaRow.kind := by
  have noRoll : formula.isDeterministic = true ↔ ¬ ∃ term ∈ formula.terms, term.isRoll = true := by
    simp [isDeterministic, rolls]
  rw [noRoll, not_iff_not, rows, List.map_cons, List.mem_cons, kind_mem_stepRows, terms,
    List.exists_mem_cons_iff, Term.row, eq_comm (a := "roll"), Term.kind_eq_roll_iff]

/-- The cells of the rows are words. -/
theorem isWordChar_of_mem_rows {row : FormulaRow} (isRow : row ∈ formula.rows) :
    ∀ cell ∈ [row.number.toList, row.kind.toList, row.text.toList],
      ∀ c ∈ cell, Text.isWordChar c = true := by
  have shape : (∃ (term : Term) (place : Nat), row = term.row place) ∨
      ∃ op : Operator, row = op.row := by
    rcases List.mem_cons.1 isRow with rfl | isStep
    · exact .inl ⟨formula.first, 0, rfl⟩
    · exact exists_of_mem_stepRows 1 formula.steps isStep
  have roll : ∀ c ∈ "roll".toList, Text.isWordChar c = true := List.all_eq_true.1 rfl
  have integer : ∀ c ∈ "integer".toList, Text.isWordChar c = true := List.all_eq_true.1 rfl
  have identifier : ∀ c ∈ "identifier".toList, Text.isWordChar c = true := List.all_eq_true.1 rfl
  have operator : ∀ c ∈ "operator".toList, Text.isWordChar c = true := List.all_eq_true.1 rfl
  simp only [List.forall_mem_cons]
  rcases shape with ⟨term, place, rfl⟩ | ⟨op, rfl⟩
  · have number : ∀ c ∈ (term.row place).number.toList, Text.isWordChar c = true := fun c =>
      Text.isWordChar_of_mem_natDigits
    refine ⟨number, ?_, fun c member => ?_, List.forall_mem_nil _⟩
    · cases term with
      | roll count faces => exact roll
      | literal value => exact integer
      | identifier name => exact identifier
    · rw [Term.row, Term.text, String.toList_ofList] at member
      exact term.isWordChar_of_mem_chars member
  · refine ⟨List.forall_mem_nil _, operator, ?_, List.forall_mem_nil _⟩
    rw [Operator.row, String.toList_singleton, List.forall_mem_singleton]
    exact op.isWordChar_symbol

end Table

/-- What was read does not look like an option, because it begins with a term. -/
theorem isOption_of_parse {source : String} {formula : Formula}
    (accepted : parse source = .ok formula) : OptionSpec.isOption source = false := by
  obtain ⟨wording, same, reads⟩ := parseChars_eq_ok_iff.1 accepted
  obtain ⟨term, spelling⟩ := reads.exists_term List.mem_cons_self
  obtain ⟨c, rest, first⟩ := List.exists_cons_of_ne_nil spelling.ne_nil
  have nameChar : isNameChar c = true :=
    spelling.isNameChar_of_mem c (first ▸ List.mem_cons_self)
  have begins : source.toList = c :: (rest ++ wording.steps.flatMap Wording.stepChars) := by
    rw [← same, Wording.chars, first, List.cons_append]
  rw [OptionSpec.isOption, begins]
  split
  · next dash => exact absurd ((List.cons.inj dash).1 ▸ nameChar) (by decide)
  · rfl

theorem summary_eq (formula : Formula) :
    formula.summary =
      (if formula.identifiers = [] then []
        else ["Identifiers: " ++ ", ".intercalate (formula.identifiers.map Name.text)]) ++
      ["Deterministic: " ++ if formula.isDeterministic then "yes" else "no"] := by
  simp [summary]

/-- The summary has printable ASCII characters only. -/
theorem isPlainAscii_of_mem_summary {formula : Formula} {line : String}
    (member : line ∈ formula.summary) : ∀ c ∈ line.toList, Text.isPlainAscii c = true := by
  have inName (name : Name) : ∀ c ∈ name.chars, Text.isPlainAscii c = true := fun c member =>
    isPlainAscii_of_isFormulaChar (isFormulaChar_of_isNameChar (name.chars_allowed c member))
  have label : ∀ c ∈ "Identifiers: ".toList, Text.isPlainAscii c = true := List.all_eq_true.1 rfl
  have separator : ∀ c ∈ ", ".toList, Text.isPlainAscii c = true := List.all_eq_true.1 rfl
  rw [summary_eq, List.mem_append] at member
  rcases member with identifiers | verdict
  · split at identifiers
    · cases identifiers
    · rw [List.mem_singleton] at identifiers
      rw [identifiers, String.toList_append, String.toList_intercalate, List.forall_mem_append]
      refine ⟨label, fun c inList => ?_⟩
      rcases Text.mem_of_mem_intercalate inList with between | ⟨piece, isName, inPiece⟩
      · exact separator c between
      · rw [List.map_map, List.mem_map] at isName
        obtain ⟨name, -, rfl⟩ := isName
        exact inName name c (by simpa [Name.text] using inPiece)
  · rw [List.mem_singleton] at verdict
    rw [verdict]
    cases formula.isDeterministic with
    | true => exact List.all_eq_true.1 rfl
    | false => exact List.all_eq_true.1 rfl

end Formula

namespace Program

/-- There is no bar in the table of a formula but those it is drawn with. -/
theorem readable_tableOf (formula : Formula) : (tableOf formula).Readable := by
  have isWord {row : List (List Char)} (isRow : row ∈ (tableOf formula).rows) :
      row.length = 3 ∧ ∀ cell ∈ row, ∀ c ∈ cell, Text.isWordChar c = true := by
    obtain ⟨shown, isShown, rfl⟩ := List.mem_map.1 isRow
    exact ⟨rfl, formula.isWordChar_of_mem_rows isShown⟩
  have noBar : Text.isWordChar '│' ≠ true := by decide
  refine ⟨List.cons_ne_nil _ _, fun row isRow => (isWord isRow).1, ?_, fun bar => ?_⟩
  · intro row isRow cell isCell c member
    have allowed := (isWord isRow).2 cell isCell c member
    refine ⟨Text.isBlank_of_isWordChar allowed, ?_⟩
    rintro rfl
    exact noBar allowed
  · change '│' ∈ formula.chars at bar
    rw [← formula.intercalate_rows] at bar
    rcases Text.mem_of_mem_intercalate bar with between | ⟨piece, isPiece, inPiece⟩
    · exact absurd between (by decide)
    · obtain ⟨row, isRow, rfl⟩ := List.mem_map.1 isPiece
      exact noBar (formula.isWordChar_of_mem_rows isRow _ (by simp) '│' inPiece)

/-- The rows of the table are read off all that is printed: no line of the summary is taken for
one of them. -/
theorem readRows_parseLines (width : Nat) (formula : Formula) :
    Text.Grid.readRows ((parseLines width formula).map String.toList) =
      (tableOf formula).rows := by
  have drawn : ((tableOf formula).lines.map String.ofList).map String.toList =
      (tableOf formula).lines := by
    rw [List.map_map]
    exact (List.map_congr_left fun line _ => String.toList_ofList).trans (List.map_id _)
  have below : Text.Grid.readRows
      ((formula.summary.flatMap (displayed width)).map String.toList) = [] := by
    refine Text.Grid.readRows_eq_nil fun line isLine first => ?_
    obtain ⟨text, isText, rfl⟩ := List.mem_map.1 isLine
    obtain ⟨summed, isSummed, isShown⟩ := List.mem_flatMap.1 isText
    obtain ⟨wrapped, isWrapped, rfl⟩ := List.mem_map.1 isShown
    rw [String.toList_ofList] at first
    have bar := Text.mem_of_mem_wrap isWrapped (List.mem_of_mem_head? first) (by decide)
    exact absurd (Formula.isPlainAscii_of_mem_summary isSummed _ bar) (by decide)
  rw [parseLines, List.map_append, Text.Grid.readRows_append, drawn, below, List.append_nil]
  exact (readable_tableOf formula).readRows_lines

/-- A summary that fits is displayed line by line as it is. -/
theorem flatMap_displayed_summary {width : Nat} {formula : Formula}
    (fits : ∀ line ∈ formula.summary, line.length ≤ width) :
    formula.summary.flatMap (displayed width) = formula.summary := by
  have asItIs : ∀ line ∈ formula.summary, displayed width line = [line] := by
    intro line member
    have short : line.toList.length ≤ width := String.length_toList ▸ fits line member
    rw [displayed, Text.wrap_of_isPlainAscii short (Formula.isPlainAscii_of_mem_summary member),
      List.map_singleton, String.ofList_toList]
  rw [List.flatMap_congr asItIs, List.flatMap_singleton']

/-- The argument of `parse` is the formula, unless it looks like an option. -/
theorem run_parse (context : ProgramContext) {source : String}
    (plain : OptionSpec.isOption source = false) :
    run context ["parse", source] = .ok (runParse context.columns source false) := by
  have notEnd : source ≠ "--" := by
    rintro rfl
    exact absurd plain (by decide)
  have commands : OptionSpec.scan Request.programSpecs false ["parse", source] =
      .ok ⟨[], ["parse", source]⟩ := by
    have name : "parse" ≠ "--" ∧ OptionSpec.isOption "parse" = false := by decide
    rw [OptionSpec.scan, if_neg name.1, name.2]
    rfl
  have arguments : OptionSpec.scan Request.parseSpecs true [source] = .ok ⟨[], [source]⟩ := by
    rw [OptionSpec.scan, if_neg notEnd, plain]
    rfl
  have command : Request.readCommand context.surroundings.look ["parse", source] =
      .ok (.parse source false) := by
    rw [Request.readCommand, if_pos rfl, Request.readParse, arguments]
    rfl
  have asked : Request.read context.surroundings.look ["parse", source] =
      .ok (.parse source false) := by
    simp only [Request.read, commands, bind, Except.bind]
    exact command
  rw [run, asked]

/-- For a formula that is accepted, `parse` prints a table and the summary below it, on a display
that is as wide as the table.  The rows of the table are read off the printed lines.  They take
turns: a row for each term, with its number from zero, its kind and its text, and between two of
them a row for the operator, without a number.  Their texts, joined by spaces, are the canonical
text and are read as the formula.  The summary lists the identifiers, if there are any, and says
that the formula is deterministic exactly if no row shows a roll. -/
theorem run_parse_shows (context : ProgramContext) (source : String) (formula : Formula)
    (accepted : Formula.parse source = .ok formula) :
    let table := tableOf formula
    let joined := [' '].intercalate (table.cellsAt 2)
    let printed := table.lines.map String.ofList ++
      formula.summary.flatMap (displayed context.columns)
    (Text.Grid.boxWidth table.widths ≤ context.columns →
      run context ["parse", source] = .ok (success printed)) ∧
    Text.Grid.readRows (printed.map String.toList) = table.rows ∧
    table.rows.length = 2 * formula.terms.length - 1 ∧
    joined = formula.text.toList ∧ Formula.parse (String.ofList joined) = .ok formula ∧
    (∀ place : Nat, table.rows[2 * place]? = (formula.terms[place]?).map fun term =>
      [place.repr.toList, term.kind.toList, term.text.toList]) ∧
    (∀ place : Nat, table.rows[2 * place + 1]? = (formula.operators[place]?).map fun op =>
      [[], "operator".toList, [op.symbol]]) ∧
    (∀ term ∈ formula.terms,
      (term.kind = "roll" ↔ ∃ count faces, term = .roll count faces) ∧
      (term.kind = "integer" ↔ ∃ value, term = .literal value) ∧
      (term.kind = "identifier" ↔ ∃ name, term = .identifier name)) ∧
    formula.summary =
      (if formula.identifiers = [] then []
        else ["Identifiers: " ++ ", ".intercalate (formula.identifiers.map Name.text)]) ++
      ["Deterministic: " ++ if "roll".toList ∈ table.cellsAt 1 then "no" else "yes"] ∧
    ((∀ line ∈ formula.summary, line.length ≤ context.columns) →
      formula.summary.flatMap (displayed context.columns) = formula.summary) := by
  intro table joined printed
  have rowsOf : table.rows = formula.rows.map fun row =>
    [row.number.toList, row.kind.toList, row.text.toList] := rfl
  have texts : table.cellsAt 2 = formula.rows.map fun row => row.text.toList := by
    simp [table, Text.Grid.cellsAt, tableOf, Function.comp_def]
  have kinds : table.cellsAt 1 = (formula.rows.map FormulaRow.kind).map String.toList := by
    simp [table, Text.Grid.cellsAt, tableOf, Function.comp_def]
  have canonical : joined = formula.text.toList := by
    rw [Formula.text, String.toList_ofList, ← formula.intercalate_rows, ← texts]
  refine ⟨fun _ => ?_, readRows_parseLines context.columns formula, ?_, canonical, ?_,
    fun place => ?_, fun place => ?_, fun term _ => term.kind_iff, ?_, flatMap_displayed_summary⟩
  · rw [run_parse context (Formula.isOption_of_parse accepted), runParse, accepted]
    rfl
  · rw [← formula.length_rows]
    exact List.length_map _
  · rw [canonical, String.ofList_toList]
    exact Formula.parse_text_of_parse accepted
  · rw [rowsOf, List.getElem?_map, formula.getElem?_rows_term, Option.map_map]
    rfl
  · rw [rowsOf, List.getElem?_map, formula.getElem?_rows_operator, Option.map_map]
    simp [Function.comp_def, Operator.row]
  · have noRoll : "roll".toList ∈ table.cellsAt 1 ↔ ¬ formula.isDeterministic = true := by
      rw [kinds, List.mem_map_of_injective fun _ _ => String.toList_inj.1,
        Formula.isDeterministic_iff_rows, not_not]
    rw [Formula.summary_eq]
    simp only [noRoll, ite_not]

/-- The superfluous zeros of the number are not shown, those of the name are. -/
theorem run_parse_shows_paddedNumbers :
    let source := "007 + 2d6 - x007"
    let x007 : Name := ⟨['x', '0', '0', '7'], List.cons_ne_nil _ _, List.all_eq_true.1 rfl⟩
    let formula : Formula := ⟨.literal 7, [(.add, .roll 2 6), (.sub, .identifier x007)]⟩
    let context : ProgramContext := ⟨⟨"", fun _ => .missing, none⟩, 80, 0⟩
    let table := tableOf formula
    Formula.parse source = .ok formula ∧
    table.rows.map (·.map String.ofList) =
      [["0", "integer", "7"], ["", "operator", "+"], ["1", "roll", "2d6"], ["", "operator", "-"],
        ["2", "identifier", "x007"]] ∧
    run context ["parse", source] = .ok (success (table.lines.map String.ofList ++
      ["Identifiers: x007", "Deterministic: no"])) ∧
    Text.Grid.readRows ((table.lines.map String.ofList ++
      ["Identifiers: x007", "Deterministic: no"]).map String.toList) = table.rows ∧
    Formula.parse (String.ofList ([' '].intercalate (table.cellsAt 2))) = .ok formula := by
  intro source x007 formula context table
  have accepted : Formula.parse source = .ok formula := by decide +kernel
  have summary : formula.summary = ["Identifiers: x007", "Deterministic: no"] := by decide +kernel
  obtain ⟨printed, rows, -, -, readBack, -, -, -, -, displayed⟩ :=
    run_parse_shows context source formula accepted
  rw [displayed (summary ▸ by decide), summary] at printed rows
  exact ⟨accepted, by decide +kernel, printed (by decide +kernel), rows, readBack⟩

end Program

end DiceFormula
