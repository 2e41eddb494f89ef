/-
# Maximal runs and bounded digit runs

A term is found by taking the longest run of characters of a class.  This module
says where such a run ends, and what the value of a run of digits has to do with
its length: a digit in front of a run counts for at least a power of ten, so a run
with more significant digits than the bound is beyond the bound, and lengthening a
run never makes its value smaller.  Reading with a look at the length first is
therefore a comparison of the whole value.
-/

import Mathlib.Algebra.Ring.Nat
import Mathlib.Data.List.TakeWhile
import DiceFormula.Text.Digits

namespace DiceFormula.Text

/-- A run of the allowed characters is over in front of this text: it is empty or
begins with another character. -/
def RunEnds (allowed : Char → Bool) (rest : List Char) : Prop :=
  ∀ c ∈ rest.head?, allowed c = false

section Runs

variable {allowed : Char → Bool}

@[simp]
theorem runEnds_nil : RunEnds allowed [] := by
  simp [RunEnds]

@[simp]
theorem runEnds_cons {c : Char} {rest : List Char} :
    RunEnds allowed (c :: rest) ↔ allowed c = false := by
  simp [RunEnds]

/-- What stands behind a text that is not empty does not matter. -/
theorem RunEnds.append {front : List Char} (ends : RunEnds allowed front) (nonempty : front ≠ [])
    (rest : List Char) : RunEnds allowed (front ++ rest) := by
  cases front with
  | nil => exact absurd rfl nonempty
  | cons c more => exact runEnds_cons.2 (runEnds_cons.1 ends)

/-- Where a run ends there is nothing to scan. -/
theorem takeWhile_of_runEnds {text : List Char} (ends : RunEnds allowed text) :
    text.takeWhile allowed = [] := by
  cases text with
  | nil => rfl
  | cons c rest => simp [runEnds_cons.1 ends]

/-- A run in front of a place where it ends is what a scan takes. -/
theorem takeWhile_run {run rest : List Char} (all : ∀ c ∈ run, allowed c = true)
    (ends : RunEnds allowed rest) : (run ++ rest).takeWhile allowed = run := by
  rw [List.takeWhile_append_of_pos all, takeWhile_of_runEnds ends, List.append_nil]

/-- A run in front of a place where it ends is what a scan drops. -/
theorem dropWhile_run {run rest : List Char} (all : ∀ c ∈ run, allowed c = true)
    (ends : RunEnds allowed rest) : (run ++ rest).dropWhile allowed = rest := by
  rw [List.dropWhile_append_of_pos all]
  cases rest with
  | nil => rfl
  | cons c after => simp [runEnds_cons.1 ends]

theorem runEnds_dropWhile (allowed : Char → Bool) (text : List Char) :
    RunEnds allowed (text.dropWhile allowed) := by
  intro c member
  have stop := List.head?_dropWhile_not allowed text
  rw [Option.mem_def.1 member] at stop
  exact stop

/-- Every text begins with a maximal run, which may be empty. -/
theorem exists_maximal_run (allowed : Char → Bool) (text : List Char) :
    ∃ run rest, text = run ++ rest ∧ (∀ c ∈ run, allowed c = true) ∧ RunEnds allowed rest :=
  ⟨text.takeWhile allowed, text.dropWhile allowed, List.takeWhile_append_dropWhile.symm,
    fun _ member => List.mem_takeWhile_imp member, runEnds_dropWhile allowed text⟩

end Runs

theorem maxValue_eq : maxValue = 2 ^ 63 - 1 := by
  decide

/-- The digits in front count once more for every digit behind them. -/
theorem digitsValue_append (front back : List Char) :
    digitsValue (front ++ back) = 10 ^ back.length * digitsValue front + digitsValue back := by
  rw [digitsValue, Nat.ofDigitChars_append, Nat.ofDigitChars_eq_ofDigitChars_zero]
  rfl

/-- A longer run has no smaller value. -/
theorem digitsValue_le_append (front back : List Char) :
    digitsValue front ≤ digitsValue (front ++ back) := by
  rw [digitsValue_append]
  have positive : 0 < 10 ^ back.length := Nat.pow_pos (by decide)
  exact Nat.le_add_right_of_le (Nat.le_mul_of_pos_left _ positive)

/-- A digit other than zero counts for at least the power of ten of its place. -/
theorem pow_length_le_digitsValue_cons {c : Char} {rest : List Char} (digit : c.isDigit = true)
    (nonzero : c ≠ '0') : 10 ^ rest.length ≤ digitsValue (c :: rest) := by
  have split := digitsValue_append [c] rest
  rw [List.singleton_append] at split
  have front : 1 ≤ digitsValue [c] := by
    have atLeast : '0'.toNat ≤ c.toNat := (Char.isDigit_iff_toNat.1 digit).1
    have different : c.toNat ≠ '0'.toNat := fun same => nonzero (Char.toNat_inj.1 same)
    simp only [digitsValue, Nat.ofDigitChars_cons, Nat.ofDigitChars_nil]
    omega
  rw [split]
  exact Nat.le_add_right_of_le (Nat.le_mul_of_pos_right _ front)

/-- A run that is still longer than the bound without its leading zeros is beyond it. -/
theorem maxValue_lt_of_length_significant {digits : List Char}
    (all : ∀ c ∈ digits, c.isDigit = true)
    (long : (natDigits maxValue).length < (significant digits).length) :
    maxValue < digitsValue digits := by
  rw [← digitsValue_significant]
  have stop : RunEnds (· = '0') (significant digits) := runEnds_dropWhile _ digits
  have members : significant digits ⊆ digits := (List.dropWhile_sublist _).subset
  cases kept : significant digits with
  | nil => simp [kept] at long
  | cons c rest =>
      rw [kept] at stop members long
      have digitsOfBound : (natDigits maxValue).length = 19 := by decide
      have size : 19 ≤ rest.length := by
        rw [List.length_cons, digitsOfBound] at long
        omega
      calc
        maxValue < 10 ^ 19 := by decide
        _ ≤ 10 ^ rest.length := Nat.pow_le_pow_right (by decide) size
        _ ≤ digitsValue (c :: rest) :=
          pow_length_le_digitsValue_cons (all c (members List.mem_cons_self))
            (of_decide_eq_false (runEnds_cons.1 stop))

/-- Looking at the number of significant digits first comes to the same as comparing
the whole value with the bound. -/
theorem boundedValue?_eq {digits : List Char} (all : ∀ c ∈ digits, c.isDigit = true) :
    boundedValue? digits =
      if digitsValue digits ≤ maxValue then some (digitsValue digits) else none := by
  simp only [boundedValue?, digitsValue_significant]
  split
  · next long =>
    have beyond := maxValue_lt_of_length_significant all long
    rw [if_neg (Nat.not_le.2 beyond)]
  · rfl

/-- A nonempty run of ASCII digits, with any number of leading zeros. -/
structure DigitRun (digits : List Char) : Prop where
  ne_nil : digits ≠ []
  isDigit : ∀ c ∈ digits, c.isDigit = true

/-- A run of digits whose value fits a signed 64-bit word. -/
structure BoundedRun (digits : List Char) : Prop extends DigitRun digits where
  value_le : digitsValue digits ≤ 2 ^ 63 - 1

theorem boundedRun_one : BoundedRun ['1'] where
  ne_nil := List.cons_ne_nil _ _
  isDigit := List.forall_mem_singleton.2 rfl
  value_le := by decide

/-- A run of digits whose value is beyond the signed 64-bit words. -/
structure LargeRun (digits : List Char) : Prop extends DigitRun digits where
  lt_value : 2 ^ 63 - 1 < digitsValue digits

theorem BoundedRun.boundedValue? {digits : List Char} (run : BoundedRun digits) :
    Text.boundedValue? digits = some (digitsValue digits) := by
  rw [boundedValue?_eq run.isDigit, maxValue_eq, if_pos run.value_le]

theorem LargeRun.boundedValue? {digits : List Char} (run : LargeRun digits) :
    Text.boundedValue? digits = none := by
  rw [boundedValue?_eq run.isDigit, maxValue_eq, if_neg (Nat.not_le.2 run.lt_value)]

/-- Every run of digits is of one of the two kinds. -/
theorem DigitRun.bounded_or_large {digits : List Char} (run : DigitRun digits) :
    BoundedRun digits ∨ LargeRun digits := by
  rcases Nat.lt_or_ge (2 ^ 63 - 1) (digitsValue digits) with large | small
  · exact .inr ⟨run, large⟩
  · exact .inl ⟨run, small⟩

/-- More digits do not bring a run back under the bound. -/
theorem LargeRun.append {front back : List Char} (run : LargeRun front)
    (all : ∀ c ∈ back, c.isDigit = true) : LargeRun (front ++ back) where
  ne_nil := by simp [run.ne_nil]
  isDigit c member := (List.mem_append.1 member).elim (run.isDigit c) (all c)
  lt_value := run.lt_value.trans_le (digitsValue_le_append front back)

/-- A word that begins with a run of digits begins with a digit. -/
theorem DigitRun.not_start {digits word : List Char} (run : DigitRun digits)
    (front : digits <+: word) : ¬ ∀ c ∈ word.head?, c.isDigit = false := by
  intro start
  obtain ⟨rest, rfl⟩ := front
  cases digits with
  | nil => exact run.ne_nil rfl
  | cons c more =>
      have digit := run.isDigit c List.mem_cons_self
      rw [start c rfl] at digit
      cases digit

/-- The mark of dice is not part of a number. -/
theorem not_digitRun_dice (count faces : List Char) : ¬ DigitRun (count ++ 'd' :: faces) := by
  intro run
  exact absurd (run.isDigit 'd' (by simp)) (by decide)

/-- Dice are taken apart into their count and their faces in one way only. -/
theorem DigitRun.dice_inj {count faces count' faces' : List Char} (run : DigitRun count)
    (run' : DigitRun count') (same : count ++ 'd' :: faces = count' ++ 'd' :: faces') :
    count = count' ∧ faces = faces' := by
  have dieMark (rest : List Char) : RunEnds Char.isDigit ('d' :: rest) :=
    runEnds_cons.2 (by decide)
  have counts := congrArg (List.takeWhile Char.isDigit) same
  rw [takeWhile_run run.isDigit (dieMark _), takeWhile_run run'.isDigit (dieMark _)] at counts
  subst counts
  exact ⟨rfl, (List.cons.inj (List.append_cancel_left same)).2⟩

end DiceFormula.Text
