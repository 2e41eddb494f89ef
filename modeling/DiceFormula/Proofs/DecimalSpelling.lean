/-
# Numbers and the digits that spell them

A number is written without superfluous zeros.  Here a zero is superfluous when another
digit stands behind it, so that the run `0` is left as it is.  Writing the number of a
run of digits gives back the run without its superfluous zeros, and the digits of a
number are a run that can be read again exactly when the number fits a signed 64-bit
word.  The conversions between numbers and texts take a limited number of digits.
-/

import DiceFormula.Proofs.DigitRuns
import DiceFormula.Text.Numeral
import Mathlib.Algebra.Order.Ring.Int

namespace DiceFormula.Text

theorem digitRun_natDigits (n : Nat) : DigitRun (natDigits n) where
  ne_nil := natDigits_ne_nil n
  isDigit _ member := isDigit_of_mem_natDigits member

theorem boundedRun_natDigits_iff {n : Nat} : BoundedRun (natDigits n) ↔ n ≤ 2 ^ 63 - 1 := by
  constructor
  · intro run
    simpa only [digitsValue_natDigits] using run.value_le
  · intro small
    exact ⟨digitRun_natDigits n, by rwa [digitsValue_natDigits]⟩

/-- A negative number is not written as a run of digits. -/
theorem boundedRun_intDigits_iff {n : Int} :
    BoundedRun (intDigits n) ↔ 0 ≤ n ∧ n ≤ 2 ^ 63 - 1 := by
  cases n with
  | ofNat n =>
      rw [intDigits, boundedRun_natDigits_iff, Int.ofNat_eq_natCast]
      omega
  | negSucc n =>
      constructor
      · intro run
        exact absurd (run.isDigit '-' List.mem_cons_self) (by decide)
      · intro range
        omega

/-- Drops the zeros that stand in front of another digit. -/
def stripZeros : List Char → List Char
  | '0' :: c :: rest => stripZeros (c :: rest)
  | digits => digits

/-- A run of digits begins with a zero and goes on behind it. -/
def LeadingZero (digits : List Char) : Prop :=
  ∃ c rest, digits = '0' :: c :: rest

theorem stripZeros_of_not_leadingZero {digits : List Char} (plain : ¬ LeadingZero digits) :
    stripZeros digits = digits := by
  rw [stripZeros]
  rintro c rest rfl
  exact plain ⟨c, rest, rfl⟩

theorem length_stripZeros_le (digits : List Char) :
    (stripZeros digits).length ≤ digits.length := by
  induction digits using stripZeros.induct with
  | case1 c rest ih =>
      rw [stripZeros, List.length_cons]
      exact Nat.le_succ_of_le ih
  | case2 digits plain =>
      rw [stripZeros]
      exact plain

/-- Only a run with superfluous zeros is changed. -/
theorem stripZeros_eq_self_iff {digits : List Char} :
    stripZeros digits = digits ↔ ¬ LeadingZero digits := by
  constructor
  · rintro same ⟨c, rest, rfl⟩
    have shorter := length_stripZeros_le (c :: rest)
    rw [stripZeros] at same
    rw [same, List.length_cons] at shorter
    omega
  · exact stripZeros_of_not_leadingZero

theorem natDigits_digitsValue_singleton {c : Char} (digit : c.isDigit = true) :
    digitsValue [c] < 10 ∧ natDigits (digitsValue [c]) = [c] := by
  have zero : '0'.toNat = 48 := rfl
  have nine : '9'.toNat = 57 := rfl
  obtain ⟨atLeast, atMost⟩ := Char.isDigit_iff_toNat.1 digit
  have value : digitsValue [c] = c.toNat - 48 := by
    simp [digitsValue, Nat.ofDigitChars_cons]
  have small : digitsValue [c] < 10 := by omega
  have char : Nat.digitChar (digitsValue [c]) = c := by
    apply Char.toNat_inj.1
    rw [Nat.toNat_digitChar_of_lt_ten small, value]
    omega
  refine ⟨small, ?_⟩
  rw [natDigits_eq, Nat.toDigits_of_lt_base small, char]

/-- Digits behind the digits of a positive number spell a larger number. -/
theorem natDigits_append {n : Nat} (positive : 0 < n) {digits : List Char}
    (all : ∀ c ∈ digits, c.isDigit = true) :
    natDigits n ++ digits = natDigits (10 ^ digits.length * n + digitsValue digits) := by
  induction digits generalizing n with
  | nil => simp [digitsValue]
  | cons c rest ih =>
      obtain ⟨digit, allRest⟩ := List.forall_mem_cons.1 all
      obtain ⟨small, single⟩ := natDigits_digitsValue_singleton digit
      have front : natDigits n ++ [c] = natDigits (10 * n + digitsValue [c]) := by
        rw [natDigits_eq, natDigits_eq, ← Nat.toDigits_append_toDigits (by decide) positive small,
          ← natDigits_eq (digitsValue [c]), single]
      have value : digitsValue (c :: rest) =
          10 ^ rest.length * digitsValue [c] + digitsValue rest :=
        digitsValue_append [c] rest
      calc
        natDigits n ++ c :: rest = (natDigits n ++ [c]) ++ rest := List.append_cons _ _ _
        _ = natDigits (10 ^ rest.length * (10 * n + digitsValue [c]) + digitsValue rest) := by
          rw [front, ih (by omega) allRest]
        _ = natDigits (10 ^ (c :: rest).length * n + digitsValue (c :: rest)) := by
          rw [value, List.length_cons, Nat.pow_succ, Nat.mul_add, Nat.mul_assoc, Nat.add_assoc]

/-- Without superfluous zeros a run of digits is how its number is written. -/
theorem natDigits_digitsValue_of_not_leadingZero {digits : List Char} (run : DigitRun digits)
    (plain : ¬ LeadingZero digits) : natDigits (digitsValue digits) = digits := by
  cases digits with
  | nil => exact absurd rfl run.ne_nil
  | cons c rest =>
      obtain ⟨digit, allRest⟩ := List.forall_mem_cons.1 run.isDigit
      obtain ⟨-, single⟩ := natDigits_digitsValue_singleton digit
      cases rest with
      | nil => exact single
      | cons d more =>
          have nonzero : c ≠ '0' := by
            rintro rfl
            exact plain ⟨d, more, rfl⟩
          have positive : 10 ^ ([] : List Char).length ≤ digitsValue [c] :=
            pow_length_le_digitsValue_cons digit nonzero
          calc
            natDigits (digitsValue (c :: d :: more))
                = natDigits (digitsValue [c]) ++ d :: more := by
              rw [natDigits_append positive allRest, ← digitsValue_append, List.singleton_append]
            _ = c :: d :: more := by rw [single, List.singleton_append]

/-- Writing the number of a run of digits drops the superfluous zeros. -/
theorem natDigits_digitsValue {digits : List Char} (run : DigitRun digits) :
    natDigits (digitsValue digits) = stripZeros digits := by
  induction digits using stripZeros.induct with
  | case1 c rest ih =>
      have shorter : DigitRun (c :: rest) :=
        ⟨List.cons_ne_nil _ _, fun d member => run.isDigit d (List.mem_cons_of_mem _ member)⟩
      have sameValue : digitsValue ('0' :: c :: rest) = digitsValue (c :: rest) := by
        rw [← digitsValue_significant, ← digitsValue_significant (c :: rest)]
        rfl
      rw [sameValue, ih shorter, stripZeros]
  | case2 digits plain =>
      rw [stripZeros_of_not_leadingZero]
      · refine natDigits_digitsValue_of_not_leadingZero run ?_
        rintro ⟨c, rest, same⟩
        exact plain c rest same
      · rintro ⟨c, rest, same⟩
        exact plain c rest same

theorem not_leadingZero_natDigits (n : Nat) : ¬ LeadingZero (natDigits n) := by
  have written := natDigits_digitsValue (digitRun_natDigits n)
  rw [digitsValue_natDigits] at written
  exact stripZeros_eq_self_iff.1 written.symm

theorem length_natDigits_le_iff {n most : Nat} (positive : 0 < most) :
    (natDigits n).length ≤ most ↔ n < 10 ^ most := by
  rw [natDigits_eq]
  exact Nat.length_toDigits_le_iff (by decide) positive

theorem convertible_iff {n : Int} : Convertible n ↔ n.natAbs < 10 ^ maxDigits :=
  length_natDigits_le_iff (by decide)

theorem DigitLimit.spells_of_natAbs_lt {n : Int} (small : n.natAbs < 10 ^ leastLimit)
    (limit : DigitLimit) : limit.Spells n := by
  cases limit with
  | unlimited => trivial
  | upTo most enough =>
      have positive : 0 < most := Nat.lt_of_lt_of_le (by decide) enough
      refine (length_natDigits_le_iff positive).2 ?_
      exact small.trans_le (Nat.pow_le_pow_right (by decide) enough)

end DiceFormula.Text
