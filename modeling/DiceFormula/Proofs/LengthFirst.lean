/-
# Looking at the length first

A number in a formula is turned down by the count of its significant digits where that is
enough, and only the rest is converted and compared with the bound.  This comes to the same as
comparing the value of the whole run, however long it is and however many zeros it begins
with, because a digit other than zero counts for the power of ten of its place and the bound
itself has nineteen digits.

What a conversion does with more digits than that is never seen.  So a conversion that gives up
beyond nineteen digits serves as well as one that takes runs of any length.
-/

import DiceFormula.Proofs.GuardedReading

namespace DiceFormula.Text

open Formula (TermSpan)

/-- More than nineteen digits, the first of which is not zero, are beyond the bound. -/
theorem lt_digitsValue_of_length_significant {digits : List Char} (run : DigitRun digits)
    (long : 19 < (significant digits).length) : 2 ^ 63 - 1 < digitsValue digits := by
  have digitsOfBound : (natDigits maxValue).length = 19 := by decide
  rw [← maxValue_eq]
  exact maxValue_lt_of_length_significant run.isDigit (digitsOfBound ▸ long)

/-- A number of its own is turned down where it begins. -/
theorem toTerm_integer {digits : List Char} (run : DigitRun digits) (position : Nat) :
    (TermSpan.integer digits).toTerm position =
      if digitsValue digits ≤ 2 ^ 63 - 1 then .ok (.literal (digitsValue digits))
      else .error ⟨position, .boundedInteger⟩ := by
  rcases run.bounded_or_large with bounded | large
  · rw [TermSpan.toTerm, bounded.boundedValue?, if_pos bounded.value_le]
  · rw [TermSpan.toTerm, large.boundedValue?, if_neg (Nat.not_le.2 large.lt_value)]

/-- Each of the two numbers of dice is turned down where it begins, the count first. -/
theorem toTerm_roll {count faces : List Char} (countRun : DigitRun count)
    (facesRun : DigitRun faces) (position : Nat) :
    (TermSpan.roll count faces).toTerm position =
      if digitsValue count ≤ 2 ^ 63 - 1 then
        if digitsValue faces ≤ 2 ^ 63 - 1 then
          .ok (.roll (digitsValue count) (digitsValue faces))
        else .error ⟨position + count.length + 1, .boundedInteger⟩
      else .error ⟨position, .boundedInteger⟩ := by
  rcases countRun.bounded_or_large with bounded | large
  · rw [TermSpan.toTerm, bounded.boundedValue?, if_pos bounded.value_le]
    rcases facesRun.bounded_or_large with facesBounded | facesLarge
    · simp only [facesBounded.boundedValue?, if_pos facesBounded.value_le]
    · simp only [facesLarge.boundedValue?, if_neg (Nat.not_le.2 facesLarge.lt_value)]
  · rw [TermSpan.toTerm, large.boundedValue?, if_neg (Nat.not_le.2 large.lt_value)]

/-- A run of digits of any length is read as its value if that fits a signed 64-bit word, and
it is turned down otherwise, with a fault at its first digit.  A run with more than nineteen
significant digits does not fit, and for every other the conversion is given nineteen digits at
most: whatever conversion is used, as long as it is right for those, the outcome is that of
comparing the whole value. -/
theorem boundedValue?_length_first {digits : List Char} (run : DigitRun digits) (position : Nat) :
    (boundedValue? digits =
      if digitsValue digits ≤ 2 ^ 63 - 1 then some (digitsValue digits) else none) ∧
    (19 < (significant digits).length → 2 ^ 63 - 1 < digitsValue digits) ∧
    (TermSpan.integer digits).toTerm position =
      (if digitsValue digits ≤ 2 ^ 63 - 1 then .ok (.literal (digitsValue digits))
      else .error ⟨position, .boundedInteger⟩) ∧
    (∀ faces, DigitRun faces → (TermSpan.roll digits faces).toTerm position =
      if digitsValue digits ≤ 2 ^ 63 - 1 then
        if digitsValue faces ≤ 2 ^ 63 - 1 then
          .ok (.roll (digitsValue digits) (digitsValue faces))
        else .error ⟨position + digits.length + 1, .boundedInteger⟩
      else .error ⟨position, .boundedInteger⟩) ∧
    ∀ conversion, Guarded.ConvertsUpTo 19 conversion →
      Guarded.readNumberBy conversion position digits =
        if digitsValue digits ≤ 2 ^ 63 - 1 then .ok (digitsValue digits)
        else .error (.fault ⟨position, .boundedInteger⟩) := by
  refine ⟨?_, lt_digitsValue_of_length_significant run, toTerm_integer run position,
    fun faces facesRun => toTerm_roll run facesRun position, fun conversion converts => ?_⟩
  · rw [boundedValue?_eq run.isDigit, maxValue_eq]
  · rw [Guarded.readNumberBy_eq converts run, maxValue_eq]

/-- Behind thousands of zeros stands the first number that does not fit.  It has nineteen
digits, so it is converted, and a conversion that takes no more than nineteen is enough. -/
theorem boundedValue?_length_first_manyZeros :
    let digits := List.replicate 5000 '0' ++ "9223372036854775808".toList
    let conversion := fun run : List Char =>
      if run.length ≤ 19 then Except.ok (digitsValue run)
      else .error (Stop.breach .tooManyDigits)
    DigitRun digits ∧ Guarded.ConvertsUpTo 19 conversion ∧
    digitsValue digits = 2 ^ 63 ∧ (significant digits).length = 19 ∧
    boundedValue? digits = none ∧
    (TermSpan.integer digits).toTerm 4 = .error ⟨4, .boundedInteger⟩ ∧
    (TermSpan.roll digits ['6']).toTerm 4 = .error ⟨4, .boundedInteger⟩ ∧
    Guarded.readNumberBy conversion 4 digits = .error (.fault ⟨4, .boundedInteger⟩) := by
  intro digits conversion
  have run : DigitRun digits := by
    refine ⟨List.append_ne_nil_of_right_ne_nil _ (by decide),
      List.forall_mem_append.2 ⟨fun c member => ?_, List.all_eq_true.1 rfl⟩⟩
    rw [List.eq_of_mem_replicate member]
    rfl
  have six : DigitRun ['6'] := ⟨List.cons_ne_nil _ _, List.forall_mem_singleton.2 rfl⟩
  have converts : Guarded.ConvertsUpTo 19 conversion := fun run _ short => if_pos short
  have value : digitsValue digits = 2 ^ 63 := by decide +kernel
  have beyond : ¬ digitsValue digits ≤ 2 ^ 63 - 1 := by
    rw [value]
    decide
  obtain ⟨bounded, -, integer, roll, converted⟩ := boundedValue?_length_first run 4
  rw [if_neg beyond] at bounded integer
  refine ⟨run, converts, value, by decide +kernel, bounded, integer, ?_, ?_⟩
  · rw [roll _ six, if_neg beyond]
  · rw [converted _ converts, if_neg beyond]

end DiceFormula.Text
