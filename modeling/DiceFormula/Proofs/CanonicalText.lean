/-
# The canonical text of what was read

A formula can be written in more than one way, because the numbers of a text may begin
with superfluous zeros.  The canonical text of what was read is the text without them and
is read as the same formula.  So it stands for all the texts that are read alike, and two
texts are read alike exactly when their canonical texts are the same.

Only the zeros of numbers are dropped: the digits of a name belong to the name, also when
they are zeros in front of other digits.
-/

import Mathlib.Algebra.Order.BigOperators.Group.List
import Mathlib.Algebra.Order.Ring.Nat
import DiceFormula.Proofs.RoundTrip

namespace DiceFormula

namespace Text

/-- A word and the word without the superfluous zeros of its numbers. -/
inductive Stripped : List Char → List Char → Prop where
  | number {digits : List Char} (run : DigitRun digits) : Stripped digits (stripZeros digits)
  | dice {count faces : List Char} (countRun : DigitRun count) (facesRun : DigitRun faces) :
      Stripped (count ++ 'd' :: faces) (stripZeros count ++ 'd' :: stripZeros faces)
  | name {word : List Char} (start : ∀ c ∈ word.head?, c.isDigit = false) : Stripped word word

/-- A word with a number that begins with a superfluous zero. -/
inductive Padded : List Char → Prop where
  | number {digits : List Char} (run : DigitRun digits) (zero : LeadingZero digits) :
      Padded digits
  | dice {count faces : List Char} (countRun : DigitRun count) (facesRun : DigitRun faces)
      (zero : LeadingZero count ∨ LeadingZero faces) : Padded (count ++ 'd' :: faces)

theorem padded_digits_iff {digits : List Char} (run : DigitRun digits) :
    Padded digits ↔ LeadingZero digits := by
  constructor
  · intro padded
    cases padded with
    | number _ zero => exact zero
    | dice => exact absurd run (not_digitRun_dice _ _)
  · exact .number run

theorem padded_dice_iff {count faces : List Char} (countRun : DigitRun count)
    (facesRun : DigitRun faces) :
    Padded (count ++ 'd' :: faces) ↔ LeadingZero count ∨ LeadingZero faces := by
  constructor
  · intro padded
    generalize written : count ++ 'd' :: faces = word at padded
    cases padded with
    | number run => exact absurd (written ▸ run) (not_digitRun_dice count faces)
    | dice countRun' _ zero =>
        obtain ⟨rfl, rfl⟩ := countRun.dice_inj countRun' written
        exact zero
  · exact .dice countRun facesRun

theorem not_padded_of_start {word : List Char} (start : ∀ c ∈ word.head?, c.isDigit = false) :
    ¬ Padded word := by
  intro padded
  cases padded with
  | number run => exact run.not_start List.prefix_rfl start
  | dice countRun => exact countRun.not_start (List.prefix_append _ _) start

/-- Only words with superfluous zeros are changed. -/
theorem Stripped.eq_iff {word stripped : List Char} (strips : Stripped word stripped) :
    stripped = word ↔ ¬ Padded word := by
  cases strips with
  | number run => rw [stripZeros_eq_self_iff, padded_digits_iff run]
  | @dice count faces countRun facesRun =>
      rw [padded_dice_iff countRun facesRun, not_or, ← stripZeros_eq_self_iff,
        ← stripZeros_eq_self_iff]
      constructor
      · intro same
        have shorterCount := length_stripZeros_le count
        have shorterFaces := length_stripZeros_le faces
        have lengths := congrArg List.length same
        simp only [List.length_append, List.length_cons] at lengths
        obtain ⟨counts, rest⟩ := List.append_inj same (by omega)
        exact ⟨counts, (List.cons.inj rest).2⟩
      · rintro ⟨counts, sides⟩
        rw [counts, sides]
  | name start => exact ⟨fun _ => not_padded_of_start start, fun _ => rfl⟩

theorem Stripped.length_le {word stripped : List Char} (strips : Stripped word stripped) :
    stripped.length ≤ word.length := by
  cases strips with
  | number => exact length_stripZeros_le _
  | @dice count faces =>
      have shorterCount := length_stripZeros_le count
      have shorterFaces := length_stripZeros_le faces
      simp only [List.length_append, List.length_cons]
      omega
  | name => exact Nat.le_refl _

end Text

namespace Term

open Text

/-- A term is written as its word without superfluous zeros. -/
theorem Spelling.stripped {word : List Char} {term : Term} (spelling : Spelling word term) :
    Stripped word term.chars := by
  cases spelling with
  | literal run =>
      rw [chars, natDigits_digitsValue run.toDigitRun]
      exact .number run.toDigitRun
  | @roll count faces countRun facesRun =>
      have sides : intDigits (digitsValue faces) = stripZeros faces :=
        natDigits_digitsValue facesRun.toDigitRun
      rw [chars, natDigits_digitsValue countRun.toDigitRun, sides]
      exact .dice countRun.toDigitRun facesRun.toDigitRun
  | identifier start => exact .name start

end Term

namespace Formula

open Text

namespace Wording

/-- Word by word, and between the same operators, the superfluous zeros are dropped. -/
def StrippedTo (wording stripped : Wording) : Prop :=
  stripped.operators = wording.operators ∧
    List.Forall₂ Stripped wording.words stripped.words

/-- Words and operators make up the wording. -/
theorem eq_of_words_eq {left right : Wording} (words : left.words = right.words)
    (operators : left.operators = right.operators) : left = right := by
  obtain ⟨first, steps⟩ := left
  obtain ⟨first', steps'⟩ := right
  simp only [Wording.words, List.cons.injEq] at words
  obtain ⟨rfl, seconds⟩ := words
  have sameSteps : steps = steps' :=
    calc
      steps = (steps'.map Prod.fst).zip (steps'.map Prod.snd) := List.zip_of_prod operators seconds
      _ = steps' := (List.zip_of_prod rfl rfl).symm
  rw [sameSteps]

theorem length_chars (wording : Wording) :
    wording.chars.length =
      3 * wording.operators.length + (wording.words.map List.length).sum := by
  obtain ⟨first, steps⟩ := wording
  induction steps generalizing first with
  | nil => simp [chars, operators, words]
  | cons step rest ih =>
      obtain ⟨op, word⟩ := step
      have behind := ih word
      simp only [operators, words, List.length_map, List.map_cons, List.sum_cons] at behind ⊢
      simp only [chars_cons, List.length_append, List.length_cons, List.length_map, behind]
      omega

/-- Dropping zeros makes no text longer. -/
theorem StrippedTo.length_le {wording stripped : Wording} (strips : wording.StrippedTo stripped) :
    stripped.chars.length ≤ wording.chars.length := by
  obtain ⟨operators, words⟩ := strips
  have shorter : (stripped.words.map List.length).sum ≤ (wording.words.map List.length).sum := by
    apply List.Forall₂.sum_le_sum
    rw [List.forall₂_map_left_iff, List.forall₂_map_right_iff]
    exact words.flip.imp fun _ _ strips => strips.length_le
  rw [length_chars, length_chars, operators]
  omega

/-- The wordings that are left as they are are the ones without superfluous zeros. -/
theorem StrippedTo.eq_iff {wording stripped : Wording} (strips : wording.StrippedTo stripped) :
    stripped = wording ↔ ∀ word ∈ wording.words, ¬ Padded word := by
  obtain ⟨operators, words⟩ := strips
  constructor
  · rintro rfl word member
    exact (List.forall₂_same.1 words word member).eq_iff.1 rfl
  · intro plain
    refine eq_of_words_eq ?_ operators
    have plainWords := (List.forall₂_and_left wording.words stripped.words).2 ⟨plain, words⟩
    have unchanged : List.Forall₂ (· = ·) wording.words stripped.words :=
      plainWords.imp fun _ _ ⟨notPadded, strips⟩ => (strips.eq_iff.2 notPadded).symm
    rw [List.forall₂_eq_eq_eq] at unchanged
    exact unchanged.symm

/-- What is read is written without superfluous zeros. -/
theorem Reads.strippedTo {wording : Wording} {formula : Formula} (reads : wording.Reads formula) :
    wording.StrippedTo formula.wording := by
  obtain ⟨operators, spellings⟩ := reads_iff.1 reads
  refine ⟨?_, ?_⟩
  · rw [operators_wording, operators]
  · rw [words_wording, List.forall₂_map_right_iff]
    exact spellings.imp fun _ _ spelling => spelling.stripped

end Wording

/-- The canonical text of what was read is read as the same. -/
theorem parse_text_of_parse {source : String} {formula : Formula}
    (accepted : parse source = .ok formula) : parse formula.text = .ok formula :=
  parse_text_of_regular (regular_of_parse accepted)

/-- The canonical text of what was read is the text without the superfluous zeros of its
numbers.  It is read as the same formula again, so writing what it is read as does not
change it; it is no longer than the text, and it is the text itself exactly when that has
no superfluous zeros.  Texts are read alike exactly when their canonical texts agree. -/
theorem text_of_parse (source : String) (formula : Formula)
    (accepted : parse source = .ok formula) :
    (∃ wording stripped : Wording, wording.chars = source.toList ∧ wording.Reads formula ∧
      wording.StrippedTo stripped ∧ stripped.chars = formula.text.toList ∧
      (formula.text = source ↔ ∀ word ∈ wording.words, ¬ Padded word)) ∧
    parse formula.text = .ok formula ∧
    formula.text.length ≤ source.length ∧
    ∀ (other : String) (reading : Formula), parse other = .ok reading →
      (formula = reading ↔ formula.text = reading.text) := by
  obtain ⟨wording, same, reads⟩ := parseChars_eq_ok_iff.1 accepted
  have strips := reads.strippedTo
  have canonical : formula.wording.chars = formula.text.toList := by
    rw [chars_wording, text, String.toList_ofList]
  refine ⟨⟨wording, formula.wording, same, reads, strips, canonical, ?_⟩,
    parse_text_of_parse accepted, ?_, ?_⟩
  · rw [← strips.eq_iff, ← String.toList_inj, ← canonical, ← same]
    constructor
    · exact formula.separated_wording.eq_of_chars_eq reads.separated
    · intro unchanged
      rw [unchanged]
  · rw [← String.length_toList, ← String.length_toList, ← canonical, ← same]
    exact strips.length_le
  · intro other reading acceptedOther
    constructor
    · intro sameFormula
      rw [sameFormula]
    · intro sameText
      have read := parse_text_of_parse acceptedOther
      rw [← sameText, parse_text_of_parse accepted] at read
      exact Except.ok.inj read

/-- The zeros of a literal and of dice are dropped, those of a name are not. -/
theorem text_of_parse_paddedNumbers :
    let source := "007 + 00d06 - x007"
    let x007 : Name := ⟨['x', '0', '0', '7'], List.cons_ne_nil _ _, List.all_eq_true.1 rfl⟩
    let formula : Formula := ⟨.literal 7, [(.add, .roll 0 6), (.sub, .identifier x007)]⟩
    parse source = .ok formula ∧ formula.text = "7 + 0d6 - x007" ∧
    (∃ wording stripped : Wording, wording.chars = source.toList ∧ wording.Reads formula ∧
      wording.StrippedTo stripped ∧ stripped.chars = formula.text.toList ∧
      (formula.text = source ↔ ∀ word ∈ wording.words, ¬ Padded word)) ∧
    parse formula.text = .ok formula ∧
    formula.text.length ≤ source.length ∧
    ∀ (other : String) (reading : Formula), parse other = .ok reading →
      (formula = reading ↔ formula.text = reading.text) := by
  intro source x007 formula
  have accepted : parse source = .ok formula := by decide +kernel
  exact ⟨accepted, by decide +kernel, text_of_parse source formula accepted⟩

end Formula

end DiceFormula
