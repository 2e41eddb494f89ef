/-
# The language of formulas

A text is cut into words: a first word and, for every step, an operator and a word
with one space in front of each.  The formulas of the language are the texts that
can be cut so that every word is read as a term.

The reader is described completely by a relation that has one case for every way a
reading can end and one for every step it takes.  From it follows that the reader
accepts exactly the language, that an accepted text can be cut in one way only, and
that its formula is the only reading.
-/

import Mathlib.Data.List.Forall2
import DiceFormula.Proofs.TermReading

namespace DiceFormula

theorem Operator.symbol_injective : Function.Injective Operator.symbol := by
  intro left right same
  have read := congrArg Operator.ofSymbol? same
  rw [Operator.ofSymbol?_symbol, Operator.ofSymbol?_symbol] at read
  exact Option.some.inj read

namespace Formula

open Text

/-- A text cut into a first word and the words of the steps that follow it. -/
structure Wording where
  first : List Char
  steps : List (Operator × List Char)

namespace Wording

/-- The characters of one step: operator and word, one space before each. -/
def stepChars (step : Operator × List Char) : List Char :=
  ' ' :: step.1.symbol :: ' ' :: step.2

def chars (wording : Wording) : List Char :=
  wording.first ++ wording.steps.flatMap stepChars

/-- All words in the order they are written. -/
def words (wording : Wording) : List (List Char) :=
  wording.first :: wording.steps.map Prod.snd

/-- The operators between the words. -/
def operators (wording : Wording) : List Operator :=
  wording.steps.map Prod.fst

/-- No word goes on behind a space. -/
def Separated (wording : Wording) : Prop :=
  ∀ word ∈ wording.words, ' ' ∉ word

/-- The words are read, one by one and in order, as the terms of a formula, and the
operators between them are the formula's. -/
def Reads (wording : Wording) (formula : Formula) : Prop :=
  Term.Spelling wording.first formula.first ∧
    List.Forall₂ (fun word step => word.1 = step.1 ∧ Term.Spelling word.2 step.2)
      wording.steps formula.steps

end Wording

/-- Reads what is left of a text from a position on as a formula. -/
def readFrom (position : Nat) (text : List Char) : Except SyntaxFault Formula :=
  match readTerm position text with
  | .error fault => .error fault
  | .ok (first, length) =>
    match readSteps (position + length) (text.drop length) with
    | .error fault => .error fault
    | .ok steps => .ok ⟨first, steps⟩

theorem parseChars_eq_readFrom (text : List Char) : parseChars text = readFrom 0 text := by
  have fromStart (length : Nat) : 0 + length = length := Nat.zero_add length
  simp only [readFrom, fromStart]
  rfl

section Steps

variable {position : Nat}

theorem readSteps_nil : readSteps position [] = .ok [] := by
  rw [readSteps]

/-- Only a space can stand between a term and what follows. -/
theorem readSteps_of_noSpace {c : Char} {rest : List Char} (other : c ≠ ' ') :
    readSteps position (c :: rest) = .error ⟨position, .spaceOrEnd⟩ := by
  rw [readSteps]
  exact other

/-- Behind the space there has to be an operator. -/
theorem readSteps_of_noOperator {rest : List Char}
    (other : ∀ c ∈ rest.head?, Operator.ofSymbol? c = none) :
    readSteps position (' ' :: rest) = .error ⟨position + 1, .operator⟩ := by
  cases rest with
  | nil => rw [readSteps]
  | cons c after => rw [readSteps, other c rfl]

/-- Behind the operator there has to be a space. -/
theorem readSteps_of_noOperand {rest : List Char} (op : Operator)
    (other : ∀ c ∈ rest.head?, c ≠ ' ') :
    readSteps position (' ' :: op.symbol :: rest) = .error ⟨position + 2, .space⟩ := by
  cases rest with
  | nil => simp [readSteps]
  | cons c after =>
      have notSpace : c ≠ ' ' := other c rfl
      simp [readSteps, notSpace]

/-- Behind an operator between its spaces the text is read as a formula again. -/
theorem readSteps_step (op : Operator) (operand : List Char) :
    readSteps position (' ' :: op.symbol :: ' ' :: operand) =
      (readFrom (position + 3) operand).map fun formula => (op, formula.first) :: formula.steps := by
  simp only [readSteps, Operator.ofSymbol?_symbol, readFrom]
  cases readTerm (position + 3) operand with
  | error fault => rfl
  | ok found =>
      obtain ⟨term, length⟩ := found
      simp only
      cases readSteps (position + 3 + length) (operand.drop length) with
      | error fault => rfl
      | ok steps => rfl

end Steps

/-- Once a word has been read, the steps are read from behind it. -/
theorem readFrom_word {position : Nat} {word rest : List Char} {term : Term}
    (spelling : Term.Spelling word term) (stops : term.Stops rest) :
    readFrom position (word ++ rest) =
      (readSteps (position + word.length) rest).map (Formula.mk term) := by
  rw [readFrom, (TermReading.word spelling stops).readTerm_eq]
  simp only [List.drop_left]
  cases readSteps (position + word.length) rest with
  | error fault => rfl
  | ok steps => rfl

/-- Everything that reading a formula from a position on can come to.  A reading
breaks off at its first term, or behind it, or it ends with it, or it goes on behind
an operator with a reading of what is left. -/
inductive Reading : Nat → List Char → Except SyntaxFault Formula → Prop where
  | badTerm {position : Nat} {text : List Char} {fault : SyntaxFault}
      (reading : TermReading position text (.error fault)) : Reading position text (.error fault)
  | noSpace {position : Nat} {word rest : List Char} {term : Term} {c : Char}
      (spelling : Term.Spelling word term) (stops : term.Stops (c :: rest)) (other : c ≠ ' ') :
      Reading position (word ++ c :: rest) (.error ⟨position + word.length, .spaceOrEnd⟩)
  | noOperator {position : Nat} {word rest : List Char} {term : Term}
      (spelling : Term.Spelling word term)
      (other : ∀ c ∈ rest.head?, Operator.ofSymbol? c = none) :
      Reading position (word ++ ' ' :: rest) (.error ⟨position + word.length + 1, .operator⟩)
  | noOperand {position : Nat} {word rest : List Char} {term : Term}
      (spelling : Term.Spelling word term) (op : Operator) (other : ∀ c ∈ rest.head?, c ≠ ' ') :
      Reading position (word ++ ' ' :: op.symbol :: rest)
        (.error ⟨position + word.length + 2, .space⟩)
  | last {position : Nat} {word : List Char} {term : Term} (spelling : Term.Spelling word term) :
      Reading position word (.ok ⟨term, []⟩)
  | step {position : Nat} {word operand : List Char} {term : Term}
      {result : Except SyntaxFault Formula} (spelling : Term.Spelling word term) (op : Operator)
      (reading : Reading (position + word.length + 3) operand result) :
      Reading position (word ++ ' ' :: op.symbol :: ' ' :: operand)
        (result.map (join ⟨term, []⟩ op))

theorem stops_space (term : Term) (rest : List Char) : term.Stops (' ' :: rest) :=
  term.stops_of_runEnds (runEnds_cons.2 (by decide))

/-- The reader comes to what the relation says. -/
theorem Reading.readFrom_eq {position : Nat} {text : List Char}
    {result : Except SyntaxFault Formula} (reading : Reading position text result) :
    readFrom position text = result := by
  induction reading with
  | badTerm reading => rw [readFrom, reading.readTerm_eq]
  | noSpace spelling stops other =>
      rw [readFrom_word spelling stops, readSteps_of_noSpace other]
      rfl
  | noOperator spelling other =>
      rw [readFrom_word spelling (stops_space _ _), readSteps_of_noOperator other]
      rfl
  | noOperand spelling op other =>
      rw [readFrom_word spelling (stops_space _ _), readSteps_of_noOperand op other]
      rfl
  | @last position word term spelling =>
      have whole : readFrom position (word ++ []) = _ :=
        readFrom_word spelling (term.stops_of_runEnds runEnds_nil)
      rw [List.append_nil, readSteps_nil] at whole
      exact whole
  | @step position word operand term result spelling op reading ih =>
      rw [readFrom_word spelling (stops_space _ _), readSteps_step, ih]
      cases result with
      | error fault => rfl
      | ok formula => rfl

/-- What stands behind a term ends the text, or it is a step, or it is one of the three
things that are not a step. -/
inductive AfterTerm : List Char → Prop where
  | nothing : AfterTerm []
  | noSpace {c : Char} {rest : List Char} (other : c ≠ ' ') : AfterTerm (c :: rest)
  | noOperator {rest : List Char} (other : ∀ c ∈ rest.head?, Operator.ofSymbol? c = none) :
      AfterTerm (' ' :: rest)
  | noOperand {rest : List Char} (op : Operator) (other : ∀ c ∈ rest.head?, c ≠ ' ') :
      AfterTerm (' ' :: op.symbol :: rest)
  | step (op : Operator) (operand : List Char) : AfterTerm (' ' :: op.symbol :: ' ' :: operand)

theorem afterTerm (text : List Char) : AfterTerm text := by
  cases text with
  | nil => exact .nothing
  | cons c behind =>
      by_cases space : c = ' '
      · subst space
        cases behind with
        | nil => exact .noOperator (by simp)
        | cons symbol behind =>
            cases known : Operator.ofSymbol? symbol with
            | none => exact .noOperator (by simpa using known)
            | some op =>
                obtain rfl := Operator.symbol_eq_of_ofSymbol? known
                cases behind with
                | nil => exact .noOperand op (by simp)
                | cons d operand =>
                    by_cases gap : d = ' '
                    · subst gap
                      exact .step op operand
                    · exact .noOperand op (by simpa using gap)
      · exact .noSpace space

/-- The reader always comes to something that the relation says. -/
theorem reading_readFrom (position : Nat) (text : List Char) :
    Reading position text (readFrom position text) := by
  suffices ∃ result, Reading position text result by
    obtain ⟨result, reading⟩ := this
    rwa [reading.readFrom_eq]
  -- Each step takes a word off the front, so the texts of the readings get shorter.
  induction size : text.length using Nat.strong_induction_on generalizing position text with
  | _ bound ih =>
      have term := termReading_readTerm position text
      generalize readTerm position text = result at term
      cases result with
      | error fault => exact ⟨_, .badTerm term⟩
      | ok found =>
          cases term with
          | @word word rest term spelling stops =>
              cases afterTerm rest with
              | nothing => exact ⟨_, by simpa using Reading.last spelling⟩
              | noSpace other => exact ⟨_, .noSpace spelling stops other⟩
              | noOperator other => exact ⟨_, .noOperator spelling other⟩
              | noOperand op other => exact ⟨_, .noOperand spelling op other⟩
              | step op operand =>
                  have shorter : operand.length < bound := by
                    simp only [← size, List.length_append, List.length_cons]
                    omega
                  obtain ⟨result, reading⟩ :=
                    ih operand.length shorter (position + word.length + 3) operand rfl
                  exact ⟨_, .step spelling op reading⟩

/-- The relation describes the reader completely. -/
theorem reading_iff {position : Nat} {text : List Char} {result : Except SyntaxFault Formula} :
    Reading position text result ↔ readFrom position text = result := by
  refine ⟨Reading.readFrom_eq, ?_⟩
  rintro rfl
  exact reading_readFrom position text

namespace Wording

/-- The words and the terms go together one by one, and so do the operators. -/
theorem reads_iff {wording : Wording} {formula : Formula} :
    wording.Reads formula ↔ wording.operators = formula.operators ∧
      List.Forall₂ Term.Spelling wording.words formula.terms := by
  obtain ⟨first, words⟩ := wording
  obtain ⟨term, steps⟩ := formula
  simp only [Reads, operators, Wording.words, Formula.operators, terms, List.forall₂_cons]
  rw [and_left_comm]
  refine and_congr_right fun _ => ?_
  induction words generalizing steps with
  | nil => cases steps <;> simp
  | cons word words ih =>
      cases steps with
      | nil => simp
      | cons step steps =>
          simp only [List.forall₂_cons, List.map_cons, List.cons.injEq, ih]
          exact and_and_and_comm

/-- Every term of the reading is spelled by one of the words. -/
theorem Reads.exists_spelling {wording : Wording} {formula : Formula} {term : Term}
    (reads : wording.Reads formula) (member : term ∈ formula.terms) :
    ∃ word, Term.Spelling word term := by
  obtain ⟨-, spellings⟩ := reads_iff.1 reads
  obtain ⟨place, bound, rfl⟩ := List.getElem_of_mem member
  exact ⟨_, spellings.get (spellings.length_eq ▸ bound) bound⟩

/-- Every word spells one of the terms of the reading. -/
theorem Reads.exists_term {wording : Wording} {formula : Formula} {word : List Char}
    (reads : wording.Reads formula) (member : word ∈ wording.words) :
    ∃ term, Term.Spelling word term := by
  obtain ⟨-, spellings⟩ := reads_iff.1 reads
  obtain ⟨place, bound, rfl⟩ := List.getElem_of_mem member
  exact ⟨_, spellings.get bound (spellings.length_eq ▸ bound)⟩

theorem chars_cons (first word : List Char) (op : Operator) (rest : List (Operator × List Char)) :
    chars ⟨first, (op, word) :: rest⟩ = first ++ ' ' :: op.symbol :: ' ' :: chars ⟨word, rest⟩ := by
  simp [chars, stepChars]

/-- A text in words is read as the terms of its words. -/
theorem Reads.reading {wording : Wording} {formula : Formula} (reads : wording.Reads formula)
    (position : Nat) : Reading position wording.chars (.ok formula) := by
  obtain ⟨first, words⟩ := wording
  obtain ⟨term, steps⟩ := formula
  obtain ⟨spelling, spellings⟩ := reads
  simp only at spelling spellings
  induction spellings generalizing first term position with
  | nil => simpa [chars] using Reading.last spelling
  | @cons word step words steps here there ih =>
      obtain ⟨op, word⟩ := word
      obtain ⟨_, operand⟩ := step
      obtain ⟨rfl, spelled⟩ := here
      rw [chars_cons]
      exact .step spelling op (ih (position + first.length + 3) word operand spelled)

/-- Behind an accepted text and an operator between its spaces the reading goes on as
if the text began there. -/
theorem Reads.reading_append {wording : Wording} {formula : Formula}
    (reads : wording.Reads formula) {position : Nat} (op : Operator) {operand : List Char}
    {result : Except SyntaxFault Formula}
    (reading : Reading (position + wording.chars.length + 3) operand result) :
    Reading position (wording.chars ++ ' ' :: op.symbol :: ' ' :: operand)
      (result.map (formula.join op)) := by
  obtain ⟨first, words⟩ := wording
  obtain ⟨term, steps⟩ := formula
  obtain ⟨spelling, spellings⟩ := reads
  simp only at spelling spellings
  induction spellings generalizing first term position with
  | nil =>
      simp only [chars, List.flatMap_nil, List.append_nil] at reading ⊢
      exact .step spelling op reading
  | @cons step formulaStep words steps here there ih =>
      obtain ⟨inner, word⟩ := step
      obtain ⟨_, operandTerm⟩ := formulaStep
      obtain ⟨rfl, spelled⟩ := here
      have places : position + (chars ⟨first, (inner, word) :: words⟩).length + 3 =
          position + first.length + 3 + (chars ⟨word, words⟩).length + 3 := by
        simp only [chars_cons, List.length_append, List.length_cons]
        omega
      rw [places] at reading
      have composed : result.map (Formula.join ⟨term, (inner, operandTerm) :: steps⟩ op) =
          (result.map (Formula.join ⟨operandTerm, steps⟩ op)).map (Formula.join ⟨term, []⟩ inner) := by
        cases result with
        | error fault => rfl
        | ok formula => rfl
      rw [chars_cons, List.append_assoc, composed]
      exact .step spelling inner (ih word reading operandTerm spelled)

/-- Words that are read as terms have no spaces. -/
theorem Reads.separated {wording : Wording} {formula : Formula} (reads : wording.Reads formula) :
    wording.Separated := by
  intro word member space
  obtain ⟨term, spelling⟩ := reads.exists_term member
  exact absurd (spelling.isNameChar_of_mem _ space) (by decide)

/-- The first word is what stands in front of the first space. -/
theorem Separated.takeWhile_chars {wording : Wording} (separated : wording.Separated) :
    wording.chars.takeWhile (· ≠ ' ') = wording.first := by
  refine takeWhile_run (fun c member => ?_) ?_
  · have first := separated wording.first List.mem_cons_self
    rw [decide_eq_true_eq]
    rintro rfl
    exact first member
  · cases wording.steps with
    | nil => exact runEnds_nil
    | cons step rest => exact runEnds_cons.2 (by simp)

/-- Texts that are equal begin with the same word. -/
theorem Separated.first_eq {left right : Wording} (separated : left.Separated)
    (separatedOther : right.Separated) (same : left.chars = right.chars) :
    left.first = right.first :=
  calc
    left.first = left.chars.takeWhile (· ≠ ' ') := separated.takeWhile_chars.symm
    _ = right.chars.takeWhile (· ≠ ' ') := by rw [same]
    _ = right.first := separatedOther.takeWhile_chars

/-- A text can be cut at its spaces in one way at most. -/
theorem Separated.eq_of_chars_eq {left right : Wording} (separated : left.Separated)
    (separatedOther : right.Separated) (same : left.chars = right.chars) : left = right := by
  obtain ⟨first, words⟩ := left
  obtain ⟨first', words'⟩ := right
  induction words generalizing first first' words' with
  | nil =>
      obtain rfl : first = first' := separated.first_eq separatedOther same
      cases words' with
      | nil => rfl
      | cons word rest => simp [chars, stepChars] at same
  | cons step rest ih =>
      obtain rfl : first = first' := separated.first_eq separatedOther same
      cases words' with
      | nil => simp [chars, stepChars] at same
      | cons step' rest' =>
          obtain ⟨op, word⟩ := step
          obtain ⟨op', word'⟩ := step'
          rw [chars_cons, chars_cons] at same
          have steps := List.append_cancel_left same
          simp only [List.cons.injEq, true_and] at steps
          obtain ⟨sameSymbol, sameTail⟩ := steps
          have sameOp : op = op' := Operator.symbol_injective sameSymbol
          -- Behind the first operator the words make up a wording again.
          have tail : Separated ⟨word, rest⟩ := fun w member =>
            separated w (List.mem_cons_of_mem _ member)
          have tailOther : Separated ⟨word', rest'⟩ := fun w member =>
            separatedOther w (List.mem_cons_of_mem _ member)
          have sameRest := ih word tail word' rest' tailOther sameTail
          simp only [Wording.mk.injEq] at sameRest
          rw [sameOp, sameRest.1, sameRest.2]

/-- A text can be cut into words that are read as terms in one way at most. -/
theorem Reads.eq_of_chars_eq {left right : Wording} {formula other : Formula}
    (reads : left.Reads formula) (readsOther : right.Reads other)
    (same : left.chars = right.chars) : left = right :=
  reads.separated.eq_of_chars_eq readsOther.separated same

end Wording

/-- What is accepted from a position on can be cut into words with the formula as their
reading. -/
theorem Reading.exists_wording {position : Nat} {text : List Char} {formula : Formula}
    (reading : Reading position text (.ok formula)) :
    ∃ wording : Wording, wording.chars = text ∧ wording.Reads formula := by
  generalize outcome : Except.ok formula = result at reading
  induction reading generalizing formula with
  | badTerm | noSpace | noOperator | noOperand => cases outcome
  | @last position word term spelling =>
      cases outcome
      exact ⟨⟨word, []⟩, by simp [Wording.chars], spelling, .nil⟩
  | @step position word operand term result spelling op reading ih =>
      cases result with
      | error fault => cases outcome
      | ok tail =>
          cases outcome
          obtain ⟨wording, rfl, reads⟩ := ih rfl
          refine ⟨⟨word, (op, wording.first) :: wording.steps⟩, ?_, spelling, ?_⟩
          · exact Wording.chars_cons word wording.first op wording.steps
          · exact .cons ⟨rfl, reads.1⟩ reads.2

/-- What is accepted ends with a word. -/
theorem Reading.exists_last_word {position : Nat} {text : List Char} {formula : Formula}
    (reading : Reading position text (.ok formula)) :
    ∃ front word term, text = front ++ word ∧ Term.Spelling word term := by
  generalize outcome : Except.ok formula = result at reading
  induction reading generalizing formula with
  | badTerm | noSpace | noOperator | noOperand => cases outcome
  | @last position word term spelling => exact ⟨[], word, term, rfl, spelling⟩
  | @step position word operand term result spelling op reading ih =>
      cases result with
      | error fault => cases outcome
      | ok tail =>
          obtain ⟨front, lastWord, lastTerm, rfl, spelled⟩ := ih rfl
          exact ⟨word ++ ' ' :: op.symbol :: ' ' :: front, lastWord, lastTerm, by simp, spelled⟩

/-- The formula of a text is the reading of its words. -/
theorem parseChars_eq_ok_iff {text : List Char} {formula : Formula} :
    parseChars text = .ok formula ↔
      ∃ wording : Wording, wording.chars = text ∧ wording.Reads formula := by
  rw [parseChars_eq_readFrom, ← reading_iff]
  constructor
  · exact Reading.exists_wording
  · rintro ⟨wording, rfl, reads⟩
    exact reads.reading 0

/-- The reader accepts exactly the texts that can be cut into words, and answers with
the formula of the words; every other text is turned down.  An accepted text is cut
and read in one way only, and no identifier of its formula begins with a digit. -/
theorem parse_reads_exactly_the_wordings (source : String) :
    (∀ formula, parse source = .ok formula ↔
      ∃ wording : Wording, wording.chars = source.toList ∧ wording.Reads formula) ∧
    ((∃ fault, parse source = .error fault) ↔
      ¬ ∃ (wording : Wording) (formula : Formula),
        wording.chars = source.toList ∧ wording.Reads formula) ∧
    ((∃ formula, parse source = .ok formula) ↔
      ∃! cut : Wording × Formula, cut.1.chars = source.toList ∧ cut.1.Reads cut.2) ∧
    ¬ ∃ formula name, parse source = .ok formula ∧ Term.identifier name ∈ formula.terms ∧
      ∃ c ∈ name.chars.head?, c.isDigit = true := by
  have accepted (formula : Formula) : parse source = .ok formula ↔
      ∃ wording : Wording, wording.chars = source.toList ∧ wording.Reads formula :=
    parseChars_eq_ok_iff
  refine ⟨accepted, ?_, ?_, ?_⟩
  · constructor
    · rintro ⟨fault, rejected⟩ ⟨wording, formula, cut⟩
      rw [(accepted formula).2 ⟨wording, cut⟩] at rejected
      cases rejected
    · intro none
      cases outcome : parse source with
      | error fault => exact ⟨fault, rfl⟩
      | ok formula =>
          obtain ⟨wording, cut⟩ := (accepted formula).1 outcome
          exact absurd ⟨wording, formula, cut⟩ none
  · constructor
    · rintro ⟨formula, outcome⟩
      obtain ⟨wording, same, reads⟩ := (accepted formula).1 outcome
      refine ⟨(wording, formula), ⟨same, reads⟩, ?_⟩
      rintro ⟨other, reading⟩ ⟨sameOther, readsOther⟩
      have sameFormula := outcome.symm.trans ((accepted reading).2 ⟨other, sameOther, readsOther⟩)
      cases sameFormula
      have sameWording : other = wording :=
        readsOther.eq_of_chars_eq reads (sameOther.trans same.symm)
      rw [sameWording]
    · rintro ⟨⟨wording, formula⟩, cut, -⟩
      exact ⟨formula, (accepted formula).2 ⟨wording, cut⟩⟩
  · rintro ⟨formula, name, outcome, member, c, first, digit⟩
    obtain ⟨wording, same, reads⟩ := (accepted formula).1 outcome
    obtain ⟨word, spelling⟩ := reads.exists_spelling member
    cases spelling with
    | identifier start =>
        rw [start c first] at digit
        cases digit

end Formula

end DiceFormula
