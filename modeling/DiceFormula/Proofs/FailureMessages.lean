/-
# Reports of failed evaluations

The message of a failure is put together from fixed words, from numbers, names and operators,
and these are all in printable ASCII without a backslash.  So nothing is taken out of it or
escaped on the way to the display: it is printed as it is if it fits on one line, and if it
does not, then all its characters that are not blank are found on its lines, in their order.
-/

import DiceFormula.CommandLine.Program
import DiceFormula.Proofs.PlainText
import DiceFormula.Proofs.WrappedText

namespace DiceFormula

namespace Text

/-- The printable ASCII characters but the backslash. -/
def isReportChar (c : Char) : Bool :=
  isPlainAscii c && c ≠ '\\'

theorem isReportChar_iff {c : Char} :
    isReportChar c = true ↔ isPlainAscii c = true ∧ c ≠ '\\' := by
  simp [isReportChar]

theorem isReportChar_of_isWordChar {c : Char} (allowed : isWordChar c = true) :
    isReportChar c = true := by
  obtain ⟨plain, -, -, notBackslash⟩ := isWordChar_iff.1 allowed
  exact isReportChar_iff.2 ⟨plain, notBackslash⟩

/-- All characters of the text are such as can be reported. -/
def IsPlain (text : String) : Prop :=
  ∀ c ∈ text.toList, isReportChar c = true

theorem IsPlain.append {front back : String} (frontPlain : IsPlain front)
    (backPlain : IsPlain back) : IsPlain (front ++ back) := by
  rw [IsPlain, String.toList_append, List.forall_mem_append]
  exact ⟨frontPlain, backPlain⟩

theorem isPlain_of_word {word : List Char} (isWord : ∀ c ∈ word, isWordChar c = true) :
    IsPlain (String.ofList word) := by
  rw [IsPlain, String.toList_ofList]
  exact fun c member => isReportChar_of_isWordChar (isWord c member)

theorem isPlain_intText (n : Int) : IsPlain (intText n) :=
  isPlain_of_word fun _ => isWordChar_of_mem_intDigits

/-- A name stands between quotes as it is. -/
theorem toList_quoted (name : Name) :
    (quoted name.text).toList = '\'' :: (name.chars ++ ['\'']) := by
  have isWord : ∀ c ∈ name.chars, isWordChar c = true := fun c member =>
    isWordChar_of_isNameChar (name.chars_allowed c member)
  rw [quoted, Name.text, String.toList_ofList, String.toList_ofList,
    quotedChars_of_isWordChar isWord]

theorem isPlain_quoted (name : Name) : IsPlain (quoted name.text) := by
  have quote : isReportChar '\'' = true := rfl
  rw [IsPlain, toList_quoted, List.forall_mem_cons, List.forall_mem_append]
  refine ⟨quote, fun c member => ?_, List.forall_mem_singleton.2 quote⟩
  exact isReportChar_of_isWordChar (isWordChar_of_isNameChar (name.chars_allowed c member))

/-- Different names are different between quotes. -/
theorem eq_of_quoted {name other : Name} (same : quoted name.text = quoted other.text) :
    name = other := by
  have chars := congrArg String.toList same
  rw [toList_quoted, toList_quoted] at chars
  exact Name.ext_chars (List.append_cancel_right (List.cons.inj chars).2)

/-- On a display of this width the text is read off these lines: it is one line if it fits, and
otherwise all its characters that are not blank are there, in their order. -/
structure Shows (width : Nat) (text : String) (lines : List String) : Prop where
  whole : text.length ≤ width → lines = [text]
  visible : (lines.flatMap fun line => visible line.toList) = visible text.toList

end Text

open Text

theorem Term.isPlain_text (term : Term) : IsPlain term.text :=
  isPlain_of_word fun _ => term.isWordChar_of_mem_chars

namespace Operation

/-- A name that is looked up is one that formulas have. -/
def IsNamed : Operation → Prop
  | lookup text => ∃ name : Name, text = name.text
  | roll _ _ => True
  | apply _ _ _ => True

variable {operation other : Operation}

theorem isPlain_text (named : operation.IsNamed) : IsPlain operation.text := by
  cases operation with
  | lookup text =>
      obtain ⟨name, rfl⟩ := named
      have fixed : IsPlain "identifier " := List.all_eq_true.1 rfl
      exact fixed.append (isPlain_quoted name)
  | roll count faces =>
      have fixed : IsPlain "roll " := List.all_eq_true.1 rfl
      exact fixed.append (Term.isPlain_text _)
  | apply op left right =>
      have symbol : IsPlain (String.ofList [' ', op.symbol, ' ']) := by
        rw [IsPlain, String.toList_ofList]
        cases op <;> exact List.all_eq_true.1 rfl
      exact ((isPlain_intText left).append symbol).append (isPlain_intText right)

/-- What stands in front of the first space: what was done, or the left operand. -/
def firstWord : Operation → List Char
  | lookup _ => "identifier".toList
  | roll _ _ => "roll".toList
  | apply _ left _ => intDigits left

theorem takeWhile_text (operation : Operation) :
    operation.text.toList.takeWhile isWordChar = operation.firstWord := by
  have space (rest : List Char) : RunEnds isWordChar (' ' :: rest) := runEnds_cons.2 rfl
  cases operation with
  | lookup text =>
      have word : ∀ c ∈ "identifier".toList, isWordChar c = true := List.all_eq_true.1 rfl
      rw [Operation.text, String.toList_append]
      exact takeWhile_run word (space _)
  | roll count faces =>
      have word : ∀ c ∈ "roll".toList, isWordChar c = true := List.all_eq_true.1 rfl
      rw [Operation.text, String.toList_append]
      exact takeWhile_run word (space _)
  | apply op left right =>
      have word : ∀ c ∈ intDigits left, isWordChar c = true := fun _ => isWordChar_of_mem_intDigits
      simp only [Operation.text, intText, String.toList_append, String.toList_ofList,
        List.append_assoc]
      exact takeWhile_run word (space _)

/-- Two computations that are described alike are the same. -/
theorem eq_of_text (named : operation.IsNamed) (otherNamed : other.IsNamed)
    (same : operation.text = other.text) : operation = other := by
  have words : operation.firstWord = other.firstWord := by
    rw [← takeWhile_text, ← takeWhile_text, same]
  have different : "identifier".toList ≠ "roll".toList := by decide
  -- No integer is written with a letter.
  have noInteger (value : Int) :
      "identifier".toList ≠ intDigits value ∧ "roll".toList ≠ intDigits value := by
    refine ⟨fun written => ?_, fun written => ?_⟩
    · have letter : 'i' ∈ intDigits value := written ▸ List.mem_cons_self
      exact notMem_intDigits (by decide) (by decide) value letter
    · have letter : 'r' ∈ intDigits value := written ▸ List.mem_cons_self
      exact notMem_intDigits (by decide) (by decide) value letter
  cases operation with
  | lookup text =>
      cases other with
      | lookup otherText =>
          obtain ⟨name, rfl⟩ := named
          obtain ⟨otherName, rfl⟩ := otherNamed
          have texts : "identifier " ++ quoted name.text = "identifier " ++ quoted otherName.text :=
            same
          rw [eq_of_quoted ((String.append_right_inj _).1 texts)]
      | roll count faces => exact absurd words different
      | apply op left right => exact absurd words (noInteger left).1
  | roll count faces =>
      cases other with
      | lookup text => exact absurd words.symm different
      | roll otherCount otherFaces =>
          have texts : "roll " ++ (Term.roll count faces).text =
              "roll " ++ (Term.roll otherCount otherFaces).text := same
          obtain ⟨rfl, rfl⟩ := Term.eq_of_text_roll ((String.append_right_inj _).1 texts)
          rfl
      | apply op left right => exact absurd words (noInteger left).2
  | apply op left right =>
      cases other with
      | lookup text => exact absurd words.symm (noInteger left).1
      | roll count faces => exact absurd words.symm (noInteger left).2
      | apply otherOp otherLeft otherRight =>
          obtain rfl := intDigits_injective words
          have texts : intText left ++ String.ofList [' ', op.symbol, ' '] ++ intText right =
              intText left ++ String.ofList [' ', otherOp.symbol, ' '] ++ intText otherRight := same
          rw [String.append_assoc, String.append_assoc] at texts
          have chars := congrArg String.toList ((String.append_right_inj _).1 texts)
          simp only [intText, String.toList_append, String.toList_ofList, List.cons_append,
            List.nil_append, List.cons.injEq, true_and] at chars
          rw [Operator.symbol_injective chars.1, intDigits_injective chars.2]

end Operation

namespace EvalError

/-- The names in the failure are such as formulas have. -/
def IsNamed : EvalError → Prop
  | unknownIdentifier text => ∃ name : Name, text = name.text
  | invalidDice _ _ => True
  | divisionByZero _ => True
  | overflow operation => operation.IsNamed

variable {error other : EvalError}

theorem isPlain_message (named : error.IsNamed) : IsPlain error.message := by
  cases error with
  | unknownIdentifier text =>
      obtain ⟨name, rfl⟩ := named
      have fixed : IsPlain "Unknown identifier: " := List.all_eq_true.1 rfl
      exact fixed.append (isPlain_quoted name)
  | invalidDice count faces =>
      have front : IsPlain "Invalid dice " := List.all_eq_true.1 rfl
      have back : IsPlain ": dice need at least one face" := List.all_eq_true.1 rfl
      exact (front.append (Term.isPlain_text _)).append back
  | divisionByZero left =>
      have front : IsPlain "Division by zero (" := List.all_eq_true.1 rfl
      have back : IsPlain " / 0)" := List.all_eq_true.1 rfl
      exact (front.append (isPlain_intText left)).append back
  | overflow operation =>
      have fixed : IsPlain "Arithmetic overflow in " := List.all_eq_true.1 rfl
      exact fixed.append (Operation.isPlain_text named)

/-- The letter that the message begins with. -/
def initial : EvalError → Char
  | unknownIdentifier _ => 'U'
  | invalidDice _ _ => 'I'
  | divisionByZero _ => 'D'
  | overflow _ => 'A'

theorem head?_message (error : EvalError) : error.message.toList.head? = some error.initial := by
  cases error with
  | unknownIdentifier text =>
      have first : ("Unknown identifier: " ++ quoted text).toList.head? = some 'U' := by simp
      exact first
  | invalidDice count faces =>
      have first : ("Invalid dice " ++ (Term.roll count faces).text ++
          ": dice need at least one face").toList.head? = some 'I' := by simp
      exact first
  | divisionByZero left =>
      have first : ("Division by zero (" ++ intText left ++ " / 0)").toList.head? = some 'D' := by
        simp
      exact first
  | overflow operation =>
      have first : ("Arithmetic overflow in " ++ operation.text).toList.head? = some 'A' := by simp
      exact first

/-- Two failures with the same message are the same. -/
theorem eq_of_message (named : error.IsNamed) (otherNamed : other.IsNamed)
    (same : error.message = other.message) : error = other := by
  have initials : error.initial = other.initial := by
    have heads := error.head?_message
    rw [same, head?_message] at heads
    exact (Option.some.inj heads).symm
  cases error with
  | unknownIdentifier text =>
      cases other with
      | unknownIdentifier otherText =>
          obtain ⟨name, rfl⟩ := named
          obtain ⟨otherName, rfl⟩ := otherNamed
          have texts : "Unknown identifier: " ++ quoted name.text =
              "Unknown identifier: " ++ quoted otherName.text := same
          rw [eq_of_quoted ((String.append_right_inj _).1 texts)]
      | invalidDice | divisionByZero | overflow => simp [initial] at initials
  | invalidDice count faces =>
      cases other with
      | invalidDice otherCount otherFaces =>
          have texts : "Invalid dice " ++ (Term.roll count faces).text ++
              ": dice need at least one face" = "Invalid dice " ++
              (Term.roll otherCount otherFaces).text ++ ": dice need at least one face" := same
          obtain ⟨rfl, rfl⟩ := Term.eq_of_text_roll
            ((String.append_right_inj _).1 ((String.append_left_inj _).1 texts))
          rfl
      | unknownIdentifier | divisionByZero | overflow => simp [initial] at initials
  | divisionByZero left =>
      cases other with
      | divisionByZero otherLeft =>
          have texts : "Division by zero (" ++ intText left ++ " / 0)" =
              "Division by zero (" ++ intText otherLeft ++ " / 0)" := same
          have numbers := (String.append_right_inj _).1 ((String.append_left_inj _).1 texts)
          rw [intText_injective numbers]
      | unknownIdentifier | invalidDice | overflow => simp [initial] at initials
  | overflow operation =>
      cases other with
      | overflow otherOperation =>
          have texts : "Arithmetic overflow in " ++ operation.text =
              "Arithmetic overflow in " ++ otherOperation.text := same
          rw [Operation.eq_of_text named otherNamed ((String.append_right_inj _).1 texts)]
      | unknownIdentifier | invalidDice | divisionByZero => simp [initial] at initials

end EvalError

/-- If the outcome is a failure, its names are such as formulas have. -/
def Named (outcome : Except EvalError Int) : Prop :=
  ∀ error, outcome = .error error → error.IsNamed

namespace Named

theorem ok (value : Int) : Named (.ok value) := by
  intro error failed
  cases failed

theorem error {error : EvalError} (named : error.IsNamed) : Named (.error error) := by
  rintro _ ⟨⟩
  exact named

theorem checked (value : Int) {operation : Operation} (named : operation.IsNamed) :
    Named (checked value operation) := by
  by_cases fits : InRange value
  · rw [DiceFormula.checked, if_pos fits]
    exact ok value
  · rw [DiceFormula.checked, if_neg fits]
    exact error named

/-- No operator has anything to do with names. -/
theorem apply (op : Operator) (left right : Int) : Named (op.apply left right) := by
  cases op with
  | add => exact checked _ trivial
  | sub => exact checked _ trivial
  | mul => exact checked _ trivial
  | div =>
      by_cases zero : right = 0
      · rw [Operator.apply, if_pos zero]
        exact error trivial
      · rw [Operator.apply, if_neg zero]
        exact checked _ trivial

theorem combine {left right : Except EvalError Int} (leftNamed : Named left)
    (rightNamed : Named right) (op : Operator) : Named (op.combine left right) := by
  cases left with
  | error failure => exact leftNamed
  | ok leftValue =>
      cases right with
      | error failure => exact rightNamed
      | ok rightValue => exact apply op leftValue rightValue

theorem lookedUp (name : Name) (found : Option Int) : Named (Round.lookedUp name found) := by
  cases found with
  | none => exact error ⟨name, rfl⟩
  | some value => exact checked value ⟨name, rfl⟩

variable {ρ σ : Type} [Resolver ρ] [RandomSource σ]

theorem of_roll {count : Nat} {faces : Int} {play next : Play σ}
    {outcome : Except EvalError Int} (rolled : play.roll count faces = (.ok outcome, next)) :
    Named outcome := by
  rw [Play.roll] at rolled
  by_cases faceless : faces < 1
  · rw [if_pos faceless] at rolled
    cases rolled
    exact error trivial
  · rw [if_neg faceless] at rolled
    rcases drawn : play.drawDice faces count 0 with ⟨sum, between⟩
    rw [drawn] at rolled
    cases sum with
    | error failure => cases rolled
    | ok total =>
        cases rolled
        exact checked total trivial

theorem of_resolve {term : Term} {round next : Round ρ σ} {outcome : Except EvalError Int}
    (resolved : round.resolve term = (.ok outcome, next)) : Named outcome := by
  obtain ⟨play, resolver⟩ := round
  cases term with
  | literal value =>
      cases resolved
      exact ok value
  | identifier name =>
      cases resolved
      exact lookedUp name _
  | roll count faces =>
      rcases rolled : play.roll count faces with ⟨found, between⟩
      rw [Round.resolve, rolled] at resolved
      cases resolved
      exact of_roll rolled

/-- No step makes up a name. -/
theorem of_foldSteps {steps : List (Operator × Term)} {round next : Round ρ σ}
    {soFar outcome : Except EvalError Int} (named : Named soFar)
    (folded : round.foldSteps steps soFar = (.ok outcome, next)) : Named outcome := by
  induction steps generalizing round soFar with
  | nil =>
      cases folded
      exact named
  | cons step rest ih =>
      obtain ⟨op, term⟩ := step
      rcases resolved : round.resolve term with ⟨found, between⟩
      rw [Round.foldSteps, resolved] at folded
      cases found with
      | error failure => cases folded
      | ok operand => exact ih (named.combine (of_resolve resolved) op) folded

/-- A formula fails with no names but such as formulas have. -/
theorem of_evaluate {formula : Formula} {resolver : ρ} {play : Play σ} {next : Round ρ σ}
    {outcome : Except EvalError Int}
    (evaluated : formula.evaluate resolver play = (.ok outcome, next)) : Named outcome := by
  rcases resolved : Round.resolve ⟨play, resolver⟩ formula.first with ⟨found, between⟩
  rw [Formula.evaluate, resolved] at evaluated
  cases found with
  | error failure => cases evaluated
  | ok first => exact of_foldSteps (of_resolve resolved) evaluated

end Named

namespace Program

/-- Without a backslash there is nothing to be lost. -/
theorem withoutBracketEscapes_eq_self {message : List Char} (noBackslash : '\\' ∉ message) :
    withoutBracketEscapes message = message := by
  induction message with
  | nil => rfl
  | cons c rest ih =>
      rw [List.mem_cons, not_or] at noBackslash
      rw [withoutBracketEscapes, ih noBackslash.2]
      exact fun _ isBackslash _ => noBackslash.1 isBackslash.symm

/-- A text that can be reported is displayed on any width. -/
theorem shows_displayed {text : String} (plain : IsPlain text) (width : Nat) :
    Shows width text (displayed width text) := by
  have ascii : ∀ c ∈ text.toList, isPlainAscii c = true := fun c member =>
    (isReportChar_iff.1 (plain c member)).1
  constructor
  · intro fits
    rw [displayed, wrap_of_isPlainAscii (String.length_toList ▸ fits) ascii, List.map_singleton,
      String.ofList_toList]
  · rw [displayed, List.flatMap_map]
    simp only [String.toList_ofList]
    rw [visible_wrap, withoutControls_eq_self ascii]

/-- A report shows what went wrong and the message about it. -/
theorem shows_report {what message : String} (whatPlain : IsPlain what)
    (messagePlain : IsPlain message) (width : Nat) :
    Shows width (what ++ ": " ++ message) (report width what message) := by
  have colon : IsPlain ": " := List.all_eq_true.1 rfl
  have noBackslash : '\\' ∉ message.toList := fun member =>
    absurd (messagePlain _ member) (by decide)
  rw [report, withoutBracketEscapes_eq_self noBackslash, String.ofList_toList]
  exact shows_displayed ((whatPlain.append colon).append messagePlain) width

end Program

end DiceFormula
