/-
# Words in printable ASCII

Numbers, names and operators are written without spaces and in printable ASCII characters that
nothing on the way to the display changes: no quote or backslash is among them, so they stand
between quotes and in reports as they are.  An integer is written as the standard library
writes it, and different integers are written differently.
-/

import DiceFormula.Proofs.DecimalSpelling
import DiceFormula.Proofs.FaultMark
import DiceFormula.Text.Blank
import DiceFormula.Text.Quoted

namespace DiceFormula

namespace Text

/-- The printable ASCII characters but the space, the single quote and the backslash. -/
def isWordChar (c : Char) : Bool :=
  isPlainAscii c && c ∉ [' ', '\'', '\\']

theorem isWordChar_iff {c : Char} :
    isWordChar c = true ↔ isPlainAscii c = true ∧ c ≠ ' ' ∧ c ≠ '\'' ∧ c ≠ '\\' := by
  simp [isWordChar]

/-- An integer is written as usual. -/
theorem intText_eq_toString (n : Int) : intText n = toString n := by
  cases n with
  | ofNat n =>
      rw [intText, intDigits, natDigits, String.ofList_toList]
      rfl
  | negSucc n =>
      have written : toString (Int.negSucc n) = "-" ++ (n + 1).repr := rfl
      rw [written, intText, intDigits, natDigits, ← String.toList_inj, String.toList_ofList,
        String.toList_append]
      rfl

theorem natDigits_injective : Function.Injective natDigits := by
  intro m n same
  rw [← digitsValue_natDigits m, same, digitsValue_natDigits]

/-- Integers have only digits and a minus sign. -/
theorem notMem_intDigits {c : Char} (noDigit : c.isDigit = false) (noSign : c ≠ '-')
    (value : Int) : c ∉ intDigits value := by
  have noNatural (n : Nat) : c ∉ natDigits n := fun member => by
    rw [isDigit_of_mem_natDigits member] at noDigit
    cases noDigit
  cases value with
  | ofNat n => exact noNatural n
  | negSucc n => exact List.not_mem_cons_of_ne_of_not_mem noSign (noNatural (n + 1))

/-- Different integers are written differently. -/
theorem intDigits_injective : Function.Injective intDigits := by
  have noSign {m n : Nat} (written : natDigits m = '-' :: natDigits n) : False := by
    have member : '-' ∈ natDigits m := written ▸ List.mem_cons_self
    exact absurd (isDigit_of_mem_natDigits member) (by decide)
  intro left right same
  cases left with
  | ofNat m =>
      cases right with
      | ofNat n => rw [natDigits_injective same]
      | negSucc n => exact (noSign same).elim
  | negSucc m =>
      cases right with
      | ofNat n => exact (noSign same.symm).elim
      | negSucc n =>
          have magnitudes := natDigits_injective (List.cons.inj same).2
          rw [Nat.succ.inj magnitudes]

theorem intText_injective : Function.Injective intText := by
  intro left right same
  exact intDigits_injective (String.ofList_injective same)

/-- Printable ASCII characters are shown as themselves. -/
theorem isPrintable_of_isPlainAscii {c : Char} (plain : isPlainAscii c = true) :
    isPrintable c = true := by
  obtain ⟨atLeast, atMost⟩ := isPlainAscii_iff.1 plain
  have outside : inRanges unprintableRanges c = false := by
    rw [unprintableRanges, inRanges, if_neg (by omega), if_neg (by omega), inRanges,
      if_pos (by omega)]
  rw [isPrintable, outside, Bool.not_false]

/-- There is no space in a word. -/
theorem isBlank_of_isWordChar {c : Char} (plain : isWordChar c = true) : isBlank c = false := by
  obtain ⟨ascii, notSpace, -, -⟩ := isWordChar_iff.1 plain
  obtain ⟨atLeast, atMost⟩ := isPlainAscii_iff.1 ascii
  have notCode : c.toNat ≠ 0x20 := fun code => notSpace (Char.toNat_inj.1 code)
  simp only [isBlank, isSpace, Bool.or_eq_false_iff, Bool.and_eq_false_iff, decide_eq_false_iff_not,
    beq_eq_false_iff_ne]
  omega

/-- Nothing in a word has to be escaped. -/
theorem quotedChars_of_isWordChar {word : List Char} (plain : ∀ c ∈ word, isWordChar c = true) :
    quotedChars word = '\'' :: (word ++ ['\'']) := by
  have noQuote : '\'' ∉ word := fun member => absurd (plain _ member) (by decide)
  have quote : quoteFor word = '\'' := by
    simp [quoteFor, noQuote]
  have asItIs : ∀ c ∈ word, quotedChar '\'' c = [c] := by
    intro c member
    obtain ⟨ascii, -, notQuote, notBackslash⟩ := isWordChar_iff.1 (plain c member)
    have visible := (isPlainAscii_iff.1 ascii).1
    have notLineFeed : c ≠ '\n' := by rintro rfl; exact absurd visible (by decide)
    have notReturn : c ≠ '\r' := by rintro rfl; exact absurd visible (by decide)
    have notTab : c ≠ '\t' := by rintro rfl; exact absurd visible (by decide)
    simp [quotedChar, notQuote, notBackslash, notLineFeed, notReturn, notTab,
      isPrintable_of_isPlainAscii ascii]
  simp only [quotedChars, quote, List.flatMap_congr asItIs, List.flatMap_singleton',
    List.cons_append]

end Text

open Text

theorem isWordChar_of_isNameChar {c : Char} (allowed : isNameChar c = true) :
    isWordChar c = true := by
  refine isWordChar_iff.2
    ⟨isPlainAscii_of_isFormulaChar (isFormulaChar_of_isNameChar allowed), ?_, ?_, ?_⟩
  · rintro rfl
    exact absurd allowed (by decide)
  · rintro rfl
    exact absurd allowed (by decide)
  · rintro rfl
    exact absurd allowed (by decide)

theorem isWordChar_of_isDigit {c : Char} (digit : c.isDigit = true) : isWordChar c = true := by
  apply isWordChar_of_isNameChar
  simp [isNameChar, Char.isAlphanum, digit]

namespace Text

theorem isWordChar_of_mem_natDigits {n : Nat} {c : Char} (member : c ∈ natDigits n) :
    isWordChar c = true :=
  isWordChar_of_isDigit (isDigit_of_mem_natDigits member)

theorem isWordChar_of_mem_intDigits {n : Int} {c : Char} (member : c ∈ intDigits n) :
    isWordChar c = true := by
  cases n with
  | ofNat n => exact isWordChar_of_mem_natDigits member
  | negSucc n =>
      rcases List.mem_cons.1 member with rfl | member
      · rfl
      · exact isWordChar_of_mem_natDigits member

end Text

theorem Operator.isWordChar_symbol (op : Operator) : isWordChar op.symbol = true := by
  cases op <;> rfl

/-- A term is written as one word. -/
theorem Term.isWordChar_of_mem_chars {term : Term} {c : Char} (member : c ∈ term.chars) :
    isWordChar c = true := by
  cases term with
  | roll count faces =>
      rcases List.mem_append.1 member with inCount | behind
      · exact isWordChar_of_mem_natDigits inCount
      · rcases List.mem_cons.1 behind with rfl | inFaces
        · rfl
        · exact isWordChar_of_mem_intDigits inFaces
  | literal value => exact isWordChar_of_mem_natDigits member
  | identifier name => exact isWordChar_of_isNameChar (name.chars_allowed c member)

/-- Dice that are written alike are the same. -/
theorem Term.eq_of_text_roll {count otherCount : Nat} {faces otherFaces : Int}
    (same : (Term.roll count faces).text = (Term.roll otherCount otherFaces).text) :
    count = otherCount ∧ faces = otherFaces := by
  obtain ⟨counts, written⟩ := (digitRun_natDigits count).dice_inj (digitRun_natDigits otherCount)
    (String.ofList_injective same)
  exact ⟨natDigits_injective counts, intDigits_injective written⟩

end DiceFormula
