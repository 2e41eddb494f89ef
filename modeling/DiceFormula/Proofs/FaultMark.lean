/-
# The mark under a fault

A diagnostic shows the source behind a margin and, on a line of its own, a mark that is moved
to the right by the position of the fault.  The mark is placed by counting characters, so it
stands under the right one only if each character in front takes one column and none of them
ends the line.  This is so because what stands in front of a fault can be completed to a text
that is accepted, and such a text has only letters, digits, dots, operators and spaces.  What
stands behind the fault may be anything.
-/

import DiceFormula.Formula.Diagnostic
import DiceFormula.Proofs.FaultPlaces
import DiceFormula.Text.Columns
import DiceFormula.Text.Lines

namespace DiceFormula

/-- The characters that formulas are written with. -/
def isFormulaChar (c : Char) : Bool :=
  c.isAlphanum || c ∈ ['.', '+', '-', '*', '/', ' ']

namespace Text

/-- The characters that end a line somewhere: line feed, vertical tab, form feed, carriage
return, three of the information separators, next line, and the separators of lines and
paragraphs. -/
def isLineBreak (c : Char) : Bool :=
  c.toNat ∈ [0x0a, 0x0b, 0x0c, 0x0d, 0x1c, 0x1d, 0x1e, 0x85, 0x2028, 0x2029]

/-- No printable ASCII character ends a line. -/
theorem isLineBreak_of_isPlainAscii {c : Char} (plain : isPlainAscii c = true) :
    isLineBreak c = false := by
  have range := isPlainAscii_iff.1 plain
  simp only [isLineBreak, List.mem_cons, List.not_mem_nil, or_false, decide_eq_false_iff_not]
  omega

/-- A text begins with the characters in front of its first separator. -/
theorem head?_splitOn (separator : Char) (text : List Char) :
    (splitOn separator text).head? = some (text.takeWhile (· ≠ separator)) := by
  rw [splitOn_eq]
  induction text with
  | nil => rfl
  | cons c rest ih =>
      rw [List.splitOn_cons_eq_if_modifyHead, List.takeWhile_cons]
      by_cases same : c = separator
      · simp [same]
      · simp [same, List.head?_modifyHead, ih]

/-- Only a text without the separator is one piece. -/
theorem length_splitOn_eq_one_iff {separator : Char} {text : List Char} :
    (splitOn separator text).length = 1 ↔ separator ∉ text := by
  rw [splitOn_eq]
  constructor
  · intro one member
    obtain ⟨front, back, rfl⟩ := List.append_of_mem member
    have left := List.length_pos_iff.2 (List.splitOn_ne_nil separator front)
    have right := List.length_pos_iff.2 (List.splitOn_ne_nil separator back)
    rw [List.splitOn_append_cons_self, List.length_append] at one
    omega
  · intro missing
    rw [List.splitOn_eq_singleton missing]
    rfl

/-- A last line without a line feed is a line of its own. -/
theorem lines_append_line (text : List Char) {line : List Char} (whole : '\n' ∉ line) :
    lines (text ++ '\n' :: line) = lines text ++ [line] := by
  simp only [lines, splitOn_eq]
  rw [List.splitOn_append_cons_self, List.splitOn_eq_singleton whole]

end Text

section FormulaChars

/-- The characters of formulas are among the printable ASCII characters. -/
theorem isPlainAscii_of_isFormulaChar {c : Char} (allowed : isFormulaChar c = true) :
    Text.isPlainAscii c = true := by
  rw [isFormulaChar, Bool.or_eq_true, decide_eq_true_eq] at allowed
  rcases allowed with alphanumeric | listed
  · delta Char.isAlphanum Char.isAlpha Char.isUpper Char.isLower Char.isDigit at alphanumeric
    simp only [Bool.or_eq_true, Bool.and_eq_true, decide_eq_true_eq, ge_iff_le,
      UInt32.le_iff_toNat_le, UInt32.reduceToNat, Char.reduceVal] at alphanumeric
    have code : c.val.toNat = c.toNat := rfl
    rw [Text.isPlainAscii_iff]
    omega
  · have plain : ∀ d ∈ ['.', '+', '-', '*', '/', ' '], Text.isPlainAscii d = true :=
      List.all_eq_true.1 rfl
    exact plain c listed

theorem isFormulaChar_of_isNameChar {c : Char} (allowed : isNameChar c = true) :
    isFormulaChar c = true := by
  rw [isNameChar, Bool.or_eq_true, decide_eq_true_eq] at allowed
  rcases allowed with alphanumeric | rfl
  · rw [isFormulaChar, alphanumeric, Bool.true_or]
  · rfl

theorem isFormulaChar_symbol (op : Operator) : isFormulaChar op.symbol = true := by
  cases op <;> rfl

namespace Formula

/-- A text in words that are read as terms has no other characters. -/
theorem Wording.Reads.isFormulaChar_of_mem {wording : Wording} {formula : Formula}
    (reads : wording.Reads formula) : ∀ c ∈ wording.chars, isFormulaChar c = true := by
  have inWord : ∀ word ∈ wording.words, ∀ c ∈ word, isFormulaChar c = true := by
    intro word member c inWord
    obtain ⟨term, spelling⟩ := reads.exists_term member
    exact isFormulaChar_of_isNameChar (spelling.isNameChar_of_mem c inWord)
  intro c member
  rw [Wording.chars, List.mem_append, List.mem_flatMap] at member
  rcases member with inFirst | ⟨⟨op, word⟩, inSteps, inStep⟩
  · exact inWord wording.first List.mem_cons_self c inFirst
  · simp only [Wording.stepChars, List.mem_cons] at inStep
    rcases inStep with rfl | rfl | rfl | inOperand
    · rfl
    · exact isFormulaChar_symbol op
    · rfl
    · have isWord : word ∈ wording.words :=
        List.mem_cons_of_mem _ (List.mem_map.2 ⟨(op, word), inSteps, rfl⟩)
      exact inWord word isWord c inOperand

/-- What can be completed to a formula has no other characters. -/
theorem Viable.isFormulaChar_of_mem {front : List Char} (viable : Viable front) :
    ∀ c ∈ front, isFormulaChar c = true := by
  obtain ⟨back, formula, accepted⟩ := viable
  obtain ⟨wording, same, reads⟩ := parseChars_eq_ok_iff.1 accepted
  intro c member
  exact reads.isFormulaChar_of_mem c (same ▸ List.mem_append_left back member)

/-- The text in front of a fault has as many characters as the position says, and they are
all characters of formulas. -/
theorem exists_front_of_fault {source : String} {fault : SyntaxFault}
    (rejected : parse source = .error fault) :
    ∃ front rest, source.toList = front ++ rest ∧ front.length = fault.position ∧
      ∀ c ∈ front, isFormulaChar c = true := by
  have reading := reading_readFrom 0 source.toList
  rw [← parseChars_eq_readFrom, show parseChars source.toList = .error fault from rejected]
    at reading
  obtain ⟨front, rest, split, place, breaksOff⟩ := reading.breaksOff (.inl rfl) rfl
  exact ⟨front, rest, split, place, breaksOff.viable.isFormulaChar_of_mem⟩

end Formula

end FormulaChars

namespace Diagnostic

/-- The snippet of a fault, with its mark as far to the right as the position says. -/
theorem toList_snippet_ofFault (source : String) (fault : SyntaxFault) :
    (ofFault source fault).snippet.toList =
      margin ++ source.toList ++ '\n' :: (List.replicate (4 + fault.position) ' ' ++ ['^']) := by
  have column : (margin.length + (fault.position : Int)).toNat = 4 + fault.position := by
    have size : margin.length = 4 := rfl
    omega
  rw [snippet, String.toList_ofList, snippetChars, markChars, ofFault, column]

/-- The lines of the snippet of a fault are those of the source behind its margin, and one
for the mark. -/
theorem lines_snippet_ofFault (source : String) (fault : SyntaxFault) :
    Text.lines (ofFault source fault).snippet.toList =
      Text.lines (margin ++ source.toList) ++
        [List.replicate (4 + fault.position) ' ' ++ ['^']] := by
  rw [toList_snippet_ofFault]
  exact Text.lines_append_line _ (by simp)

theorem isPlainAscii_of_mem_margin : ∀ c ∈ margin, Text.isPlainAscii c = true :=
  List.all_eq_true.1 rfl

variable {source : String} {fault : SyntaxFault} {front rest : List Char}

/-- The first line goes on behind the front as far as the source has no line feed. -/
theorem head?_lines_snippet (split : source.toList = front ++ rest)
    (plain : ∀ c ∈ front, Text.isPlainAscii c = true) :
    (Text.lines (ofFault source fault).snippet.toList).head? =
      some (margin ++ front ++ rest.takeWhile (· ≠ '\n')) := by
  have noLineFeed : ∀ c ∈ margin ++ front, decide (c ≠ '\n') = true := by
    intro c member
    rw [decide_eq_true_eq]
    rintro rfl
    exact absurd (List.forall_mem_append.2 ⟨isPlainAscii_of_mem_margin, plain⟩ _ member) (by decide)
  rw [lines_snippet_ofFault, List.head?_append, Text.lines, Text.head?_splitOn, split,
    ← List.append_assoc, List.takeWhile_append_of_pos noLineFeed, Option.some_or]

/-- The margin and the front take a column for each character. -/
theorem columns_margin_append (plain : ∀ c ∈ front, Text.isPlainAscii c = true) :
    Text.columns (margin ++ front) = 4 + front.length := by
  rw [Text.columns_eq_length, List.length_append]
  · rfl
  · intro c member
    exact Text.charColumns_of_isPlainAscii
      (List.forall_mem_append.2 ⟨isPlainAscii_of_mem_margin, plain⟩ c member)

/-- The mark stands under the character that cannot be accepted.  In front of that character
there are only letters, digits, dots, operators and spaces, each of which takes one column and
does not end the line; so with its margin the character is as many columns from the left as
the mark is.  The snippet has two lines exactly if the source has no line feed, and whatever
is in it the source is found again behind the margin when the last line is taken away. -/
theorem snippet_ofFault_marks (source : String) (fault : SyntaxFault)
    (rejected : Formula.parse source = .error fault) :
    let lines := Text.lines (ofFault source fault).snippet.toList
    let column := 4 + fault.position
    fault.position ≤ source.toList.length ∧
    (∀ c ∈ source.toList.take fault.position,
      isFormulaChar c = true ∧ Text.charColumns c = 1 ∧ Text.isLineBreak c = false) ∧
    (∃ first, lines.head? = some first ∧ (first.take column).length = column ∧
      Text.columns (first.take column) = column ∧
      ∀ c, source.toList[fault.position]? = some c → c ≠ '\n' → first[column]? = some c) ∧
    lines.getLast? = some (List.replicate column ' ' ++ ['^']) ∧
    Text.columns (List.replicate column ' ') = column ∧
    (lines.length = 2 ↔ '\n' ∉ source.toList) ∧
    (['\n'].intercalate lines.dropLast).drop 4 = source.toList := by
  intro lines column
  obtain ⟨front, rest, split, place, allowed⟩ := Formula.exists_front_of_fault rejected
  have marked : lines = Text.lines (margin ++ source.toList) ++
      [List.replicate column ' ' ++ ['^']] := lines_snippet_ofFault source fault
  have before : source.toList.take fault.position = front := by
    rw [split, ← place, List.take_left]
  have plain : ∀ c ∈ front, Text.isPlainAscii c = true := fun c member =>
    isPlainAscii_of_isFormulaChar (allowed c member)
  have size : (margin ++ front).length = column := by
    rw [List.length_append, place]
    rfl
  refine ⟨?_, ?_, ⟨_, head?_lines_snippet split plain, ?_, ?_, ?_⟩, ?_, ?_, ?_, ?_⟩
  · rw [split, List.length_append, ← place]
    exact Nat.le_add_right _ _
  · rw [before]
    exact fun c member => ⟨allowed c member, Text.charColumns_of_isPlainAscii (plain c member),
      Text.isLineBreak_of_isPlainAscii (plain c member)⟩
  · rw [List.take_left' size, size]
  · rw [List.take_left' size, columns_margin_append plain, place]
  · intro c stands notLineFeed
    rw [split, ← place, List.getElem?_append_right (Nat.le_refl _), Nat.sub_self] at stands
    obtain ⟨after, rfl⟩ : ∃ after, rest = c :: after := by
      cases rest with
      | nil => cases stands
      | cons d after => exact ⟨after, by rw [Option.some.inj stands]⟩
    rw [← size, List.getElem?_append_right (Nat.le_refl _), Nat.sub_self,
      List.takeWhile_cons_of_pos (by simpa using notLineFeed)]
    rfl
  · rw [marked, List.getLast?_concat]
  · rw [Text.columns_eq_length, List.length_replicate]
    intro c member
    rw [List.eq_of_mem_replicate member]
    decide
  · have noneInMargin : '\n' ∉ margin := by decide
    have oneLine : (Text.lines (margin ++ source.toList)).length = 1 ↔ '\n' ∉ source.toList := by
      rw [Text.lines, Text.length_splitOn_eq_one_iff, List.mem_append, not_or,
        and_iff_right noneInMargin]
    rw [marked, List.length_append, List.length_singleton, ← oneLine]
    omega
  · rw [marked, List.dropLast_concat, Text.lines, Text.splitOn_eq, List.intercalate_splitOn]
    rfl

/-- The tab in the place of a space is shown where the mark stands, and a line feed behind it
makes a third line. -/
theorem snippet_ofFault_marks_tab :
    let source := "2d6 +\tx\n界"
    let fault : SyntaxFault := ⟨5, .space⟩
    let lines := Text.lines (ofFault source fault).snippet.toList
    Formula.parse source = .error fault ∧
    lines = ["  | 2d6 +\tx".toList, "界".toList, "         ^".toList] ∧
    (∃ first, lines.head? = some first ∧ Text.columns (first.take 9) = 9 ∧
      first[9]? = some '\t') ∧
    lines.getLast? = some (List.replicate 9 ' ' ++ ['^']) ∧
    (['\n'].intercalate lines.dropLast).drop 4 = source.toList := by
  intro source fault lines
  have rejected : Formula.parse source = .error fault := by decide +kernel
  have tab : source.toList[fault.position]? = some '\t' := by decide +kernel
  obtain ⟨-, -, ⟨first, isFirst, -, columns, stands⟩, mark, -, -, readBack⟩ :=
    snippet_ofFault_marks source fault rejected
  exact ⟨rejected, by decide +kernel, ⟨first, isFirst, columns, stands '\t' tab (by decide)⟩, mark,
    readBack⟩

end Diagnostic

end DiceFormula
