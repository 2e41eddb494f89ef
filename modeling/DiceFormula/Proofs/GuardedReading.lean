/-
# Reading with every reliance tested

The reader of formulas relies on facts that it does not look at: that a run of digits can be
converted into a number, that the parts of a term fit its kind, that terms and operators
alternate.  Here a formula is read from parts that promise nothing.  Numbers may be negative,
names may be anything, terms and operators are two lists, and a conversion takes a limited
number of digits.  Whatever is relied on is tested where it is relied on, and a test that
fails stops the reading with a breach.

For every text the reading with tests comes to the same as the reader, so no test ever fails.
-/

import DiceFormula.Proofs.TermReading
import DiceFormula.Text.Numeral

namespace DiceFormula

/-- Something that was relied on and did not hold. -/
inductive Breach where
  /-- A conversion is given no digits, or something that is not one. -/
  | notNumber
  /-- A conversion between a number and its digits is given too many. -/
  | tooManyDigits
  /-- A count or a literal is negative. -/
  | negative
  /-- A name is empty or has other characters than a name. -/
  | notName
  | noTerm
  /-- The number of operators does not go with the number of terms. -/
  | shape
  /-- Of two lists that are gone through together, one ends before the other. -/
  | unequalLengths
  | divisionByZero
  /-- A number is to be drawn and there is none between the bounds. -/
  | emptyRange
deriving DecidableEq

/-- Why a text is not read: a fault of the text, or a breach. -/
inductive Stop where
  | fault (fault : SyntaxFault)
  | breach (breach : Breach)
deriving DecidableEq

/-- The parts of a term before they have been looked at. -/
inductive TermParts where
  | roll (count faces : Int)
  | literal (value : Int)
  | identifier (chars : List Char)

/-- Terms and operators in the order they are written, however many of each. -/
structure Sequence where
  terms : List Term
  operators : List Operator

namespace Sequence

def ofFormula (formula : Formula) : Sequence :=
  ⟨formula.terms, formula.operators⟩

/-- One operator and one term more. -/
def push (sequence : Sequence) (op : Operator) (term : Term) : Sequence :=
  ⟨sequence.terms ++ [term], sequence.operators ++ [op]⟩

end Sequence

namespace Guarded

open Formula (TermSpan)

/-- The number that a run of digits spells. -/
def convert (digits : List Char) : Except Stop Nat :=
  if digits = [] ∨ ¬ digits.all Char.isDigit then .error (.breach .notNumber)
  else if Text.maxDigits < digits.length then .error (.breach .tooManyDigits)
  else .ok (Text.digitsValue digits)

/-- A run of digits without leading zeros, of which one is left if there is nothing else. -/
def stripped (digits : List Char) : List Char :=
  match Text.significant digits with
  | [] => ['0']
  | kept => kept

/-- The number of a run that begins at a position, if it is within the bound, found with some
conversion. -/
def readNumberBy (conversion : List Char → Except Stop Nat) (position : Nat)
    (digits : List Char) : Except Stop Nat :=
  if (Text.natDigits Text.maxValue).length < (stripped digits).length then
    .error (.fault ⟨position, .boundedInteger⟩)
  else
    match conversion (stripped digits) with
    | .error stop => .error stop
    | .ok value =>
      if Text.maxValue < value then .error (.fault ⟨position, .boundedInteger⟩)
      else conversion (stripped digits)

def readNumber : (position : Nat) → (digits : List Char) → Except Stop Nat :=
  readNumberBy convert

/-- The conversion finds the number of every run that has no more digits than the limit. -/
def ConvertsUpTo (limit : Nat) (conversion : List Char → Except Stop Nat) : Prop :=
  ∀ digits, Text.DigitRun digits → digits.length ≤ limit →
    conversion digits = .ok (Text.digitsValue digits)

/-- The term with these parts. -/
def assemble : TermParts → Except Stop Term
  | .roll count faces =>
    if count < 0 then .error (.breach .negative) else .ok (.roll count.toNat faces)
  | .literal value =>
    if value < 0 then .error (.breach .negative) else .ok (.literal value.toNat)
  | .identifier chars =>
    match Name.ofChars? chars with
    | none => .error (.breach .notName)
    | some name => .ok (.identifier name)

/-- A roll at the front of a text and the number of characters it takes. -/
def matchRoll (position : Nat) (text : List Char) : Except Stop (Option (Term × Nat)) :=
  match TermSpan.roll? text with
  | some (.roll count faces) => do
    let countValue ← readNumber position count
    let facesValue ← readNumber (position + count.length + 1) faces
    let term ← assemble (.roll countValue facesValue)
    pure (some (term, count.length + 1 + faces.length))
  | _ => pure none

def matchInteger (position : Nat) (text : List Char) : Except Stop (Option (Term × Nat)) :=
  match TermSpan.integer? text with
  | some (.integer digits) => do
    let value ← readNumber position digits
    let term ← assemble (.literal value)
    pure (some (term, digits.length))
  | _ => pure none

/-- An identifier at the front of a text.  Any run of the right characters is taken for
one. -/
def matchIdentifier (text : List Char) : Except Stop (Option (Term × Nat)) :=
  match text.takeWhile isNameChar with
  | [] => pure none
  | chars => do
    let term ← assemble (.identifier chars)
    pure (some (term, chars.length))

/-- The term that begins at a position: the first alternative that matches. -/
def readTerm (position : Nat) (text : List Char) : Except Stop (Term × Nat) := do
  match ← matchRoll position text with
  | some found => pure found
  | none =>
    match ← matchInteger position text with
    | some found => pure found
    | none =>
      match ← matchIdentifier text with
      | some found => pure found
      | none => .error (.fault ⟨position, .term⟩)

/-- Reads steps up to the end of the text and puts them behind what has been read. -/
def readRest (position : Nat) (text : List Char) (read : Sequence) : Except Stop Sequence :=
  match text with
  | [] => .ok read
  | ' ' :: afterSpace =>
    match afterSpace with
    | [] => .error (.fault ⟨position + 1, .operator⟩)
    | symbol :: afterOperator =>
      match Operator.ofSymbol? symbol with
      | none => .error (.fault ⟨position + 1, .operator⟩)
      | some op =>
        match afterOperator with
        | ' ' :: operand =>
          match readTerm (position + 3) operand with
          | .error stop => .error stop
          | .ok (term, length) =>
            readRest (position + 3 + length) (operand.drop length) (read.push op term)
        | _ => .error (.fault ⟨position + 2, .space⟩)
  | _ :: _ => .error (.fault ⟨position, .spaceOrEnd⟩)
termination_by text.length
decreasing_by simp; omega

/-- There is a term, and an operator between every two. -/
def check (read : Sequence) : Except Stop Sequence :=
  if read.terms = [] then .error (.breach .noTerm)
  else if read.operators.length ≠ read.terms.length - 1 then .error (.breach .shape)
  else .ok read

def parse (text : List Char) : Except Stop Sequence := do
  let (first, length) ← readTerm 0 text
  let read ← readRest length (text.drop length) ⟨[first], []⟩
  check read

/-- Runs of digits that are short enough can be converted. -/
theorem convert_eq {digits : List Char} (run : Text.DigitRun digits)
    (short : digits.length ≤ Text.maxDigits) : convert digits = .ok (Text.digitsValue digits) := by
  have allDigits : digits.all Char.isDigit = true := List.all_eq_true.2 run.isDigit
  rw [convert, if_neg (by simp [run.ne_nil, allDigits]), if_neg (Nat.not_lt.2 short)]

theorem digitRun_stripped {digits : List Char} (all : ∀ c ∈ digits, c.isDigit = true) :
    Text.DigitRun (stripped digits) := by
  rw [stripped]
  split
  · exact ⟨List.cons_ne_nil _ _, List.forall_mem_singleton.2 rfl⟩
  · next some =>
    refine ⟨some, fun c member => all c ?_⟩
    exact (List.dropWhile_sublist _).subset member

theorem digitsValue_stripped (digits : List Char) :
    Text.digitsValue (stripped digits) = Text.digitsValue digits := by
  rw [← Text.digitsValue_significant digits, stripped]
  split
  · next none => rw [none]; rfl
  · rfl

/-- Only the zero of a run without other digits is put back. -/
theorem length_stripped_le (digits : List Char) :
    (stripped digits).length ≤ max 1 (Text.significant digits).length := by
  rw [stripped]
  split
  · exact Nat.le_max_left _ _
  · exact Nat.le_max_right _ _

/-- A number is converted only after its length has been looked at, so a conversion for runs
of nineteen digits is enough, and the value of the whole run decides. -/
theorem readNumberBy_eq {conversion : List Char → Except Stop Nat}
    (converts : ConvertsUpTo 19 conversion) {digits : List Char} (run : Text.DigitRun digits)
    (position : Nat) :
    readNumberBy conversion position digits =
      if Text.digitsValue digits ≤ Text.maxValue then .ok (Text.digitsValue digits)
      else .error (.fault ⟨position, .boundedInteger⟩) := by
  have digitsOfBound : (Text.natDigits Text.maxValue).length = 19 := by decide
  rw [readNumberBy]
  by_cases long : (Text.natDigits Text.maxValue).length < (stripped digits).length
  · have longRun : (Text.natDigits Text.maxValue).length < (Text.significant digits).length := by
      have kept := length_stripped_le digits
      omega
    have beyond := Text.maxValue_lt_of_length_significant run.isDigit longRun
    rw [if_pos long, if_neg (Nat.not_le.2 beyond)]
  · have short : (stripped digits).length ≤ 19 := by omega
    rw [if_neg long, converts _ (digitRun_stripped run.isDigit) short, digitsValue_stripped]
    by_cases fits : Text.digitsValue digits ≤ Text.maxValue
    · simp only [if_pos fits, if_neg (Nat.not_lt.2 fits)]
    · simp only [if_neg fits, if_pos (Nat.not_le.1 fits)]

/-- No number in a text is too long for the conversion. -/
theorem readNumber_eq {digits : List Char} (run : Text.DigitRun digits) (position : Nat) :
    readNumber position digits =
      match Text.boundedValue? digits with
      | none => .error (.fault ⟨position, .boundedInteger⟩)
      | some value => .ok value := by
  have converts : ConvertsUpTo 19 convert := fun kept keptRun short =>
    convert_eq keptRun (short.trans (by decide))
  rw [readNumber, readNumberBy_eq converts run, Text.boundedValue?_eq run.isDigit]
  split <;> rfl

@[simp]
theorem assemble_roll (count : Nat) (faces : Int) :
    assemble (.roll count faces) = .ok (.roll count faces) := by
  rw [assemble, if_neg (Int.not_lt.2 (Int.natCast_nonneg count)), Int.toNat_natCast]

@[simp]
theorem assemble_literal (value : Nat) : assemble (.literal value) = .ok (.literal value) := by
  rw [assemble, if_neg (Int.not_lt.2 (Int.natCast_nonneg value)), Int.toNat_natCast]

@[simp]
theorem assemble_identifier (name : Name) :
    assemble (.identifier name.chars) = .ok (.identifier name) := by
  rw [assemble, Name.ofChars?_chars]

/-- The parts of a term fit its kind, and the term is found where the reader finds it. -/
theorem readTerm_eq (position : Nat) (text : List Char) :
    readTerm position text = (Formula.readTerm position text).mapError .fault := by
  obtain ⟨span, front⟩ := TermSpan.exists_front text
  rw [Formula.readTerm, front.ofText?_eq]
  cases front with
  | @roll count faces rest countRun facesRun ends =>
      rw [readTerm, matchRoll, TermSpan.roll?_eq_some countRun facesRun ends]
      simp only [readNumber_eq countRun, readNumber_eq facesRun, TermSpan.toTerm]
      cases Text.boundedValue? count with
      | none => rfl
      | some countValue =>
          cases Text.boundedValue? faces with
          | none => rfl
          | some facesValue =>
              simp only [bind, Except.bind, assemble_roll]
              rfl
  | @integer digits rest run ends noFaces =>
      rw [readTerm, matchRoll, TermSpan.roll?_eq_none_of_noFaces run ends noFaces, matchInteger,
        TermSpan.integer?_eq_some run ends]
      simp only [readNumber_eq run, TermSpan.toTerm]
      cases Text.boundedValue? digits with
      | none => rfl
      | some value =>
          simp only [bind, Except.bind, assemble_literal]
          rfl
  | @identifier name rest start ends =>
      have notNumber : Text.RunEnds Char.isDigit (name.chars ++ rest) :=
        start.append name.chars_ne_nil rest
      rw [readTerm, matchRoll, TermSpan.roll?_eq_none_of_runEnds notNumber, matchInteger,
        TermSpan.integer?_eq_none notNumber, matchIdentifier,
        Text.takeWhile_run name.chars_allowed ends]
      cases written : name.chars with
      | nil => exact absurd written name.chars_ne_nil
      | cons c more =>
          simp only [← written, bind, Except.bind, assemble_identifier]
          rfl
  | missing ends =>
      have notNumber := runEnds_isDigit_of_isNameChar ends
      rw [readTerm, matchRoll, TermSpan.roll?_eq_none_of_runEnds notNumber, matchInteger,
        TermSpan.integer?_eq_none notNumber, matchIdentifier, Text.takeWhile_of_runEnds ends]
      rfl

/-- Behind a term nothing is relied on, and the terms and operators read are put in their
lists. -/
theorem readRest_eq (position : Nat) (text : List Char) (read : Sequence) :
    readRest position text read =
      ((Formula.readSteps position text).map fun steps =>
        (⟨read.terms ++ steps.map Prod.snd, read.operators ++ steps.map Prod.fst⟩ : Sequence)).mapError
          .fault := by
  induction position, text using Formula.readSteps.induct generalizing read with
  | case1 => simp [readRest, Formula.readSteps, Except.map, Except.mapError]
  | case2 => simp [readRest, Formula.readSteps, Except.map, Except.mapError]
  | case3 position symbol after unknown =>
      simp [readRest, Formula.readSteps, unknown, Except.map, Except.mapError]
  | case4 position symbol op known operand fault rejected =>
      simp [readRest, Formula.readSteps, known, readTerm_eq, rejected, Except.map, Except.mapError]
  | case5 position symbol op known operand term length found fault rejected ih =>
      simp [readRest, Formula.readSteps, known, readTerm_eq, found, ih, rejected, Except.map,
        Except.mapError]
  | case6 position symbol op known operand term length found steps accepted ih =>
      simp [readRest, Formula.readSteps, known, readTerm_eq, found, ih, accepted, Except.map,
        Except.mapError, Sequence.push]
  | case7 position symbol after op known noSpace =>
      simp [readRest, Formula.readSteps, known, Except.map, Except.mapError]
  | case8 position c after noSpace =>
      simp [readRest, Formula.readSteps, Except.map, Except.mapError]

/-- What a formula is taken apart into passes the check. -/
theorem check_ofFormula (formula : Formula) :
    check (.ofFormula formula) = .ok (.ofFormula formula) := by
  have someTerm : (Sequence.ofFormula formula).terms ≠ [] := List.cons_ne_nil _ _
  have shape : (Sequence.ofFormula formula).operators.length =
      (Sequence.ofFormula formula).terms.length - 1 := by
    rw [Sequence.ofFormula, formula.length_terms, Nat.add_sub_cancel]
  rw [check, if_neg someTerm, if_neg (not_not_intro shape)]

/-- Nothing that the reader relies on fails, whatever the text. -/
theorem parse_eq (text : List Char) :
    parse text = ((Formula.parseChars text).map .ofFormula).mapError .fault := by
  rw [parse, Formula.parseChars, readTerm_eq]
  cases Formula.readTerm 0 text with
  | error fault => rfl
  | ok found =>
      obtain ⟨first, length⟩ := found
      simp only [Except.mapError, bind, Except.bind, readRest_eq]
      cases Formula.readSteps length (text.drop length) with
      | error fault => rfl
      | ok steps => exact check_ofFormula ⟨first, steps⟩

end Guarded

end DiceFormula
