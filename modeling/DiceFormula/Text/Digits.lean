/-
# Runs of decimal digits

A number inside a formula is a run of ASCII digits.  `boundedValue?` reads such
a run as long as its value fits a signed 64-bit word.  A run of any length can
occur, so leading zeros are dropped first and a run with more significant digits
than the bound itself is turned down before its value is computed.
-/

namespace DiceFormula.Text

/-- The largest value a number in a formula can have, the largest signed 64-bit
integer. -/
def maxValue : Nat := 9223372036854775807

/-- The smallest value that evaluation can reach, the smallest signed 64-bit integer. -/
def minValue : Int := -9223372036854775808

/-- The value of a run of ASCII digits. -/
def digitsValue (digits : List Char) : Nat :=
  Nat.ofDigitChars 10 digits 0

/-- The digits of a number in decimal, without leading zeros. -/
def natDigits (n : Nat) : List Char :=
  n.repr.toList

/-- The decimal spelling of an integer: a minus sign for the negative ones. -/
def intDigits : Int → List Char
  | .ofNat n => natDigits n
  | .negSucc n => '-' :: natDigits (n + 1)

/-- The decimal spelling of an integer as text. -/
def intText (n : Int) : String :=
  String.ofList (intDigits n)

theorem natDigits_eq (n : Nat) : natDigits n = Nat.toDigits 10 n :=
  Nat.toList_repr

/-- The digits of a run from its first nonzero digit on. -/
def significant (digits : List Char) : List Char :=
  digits.dropWhile (· = '0')

/-- The value of a digit run, if it is at most `maxValue`.  The number of
significant digits is looked at first, so no long run is ever converted. -/
def boundedValue? (digits : List Char) : Option Nat :=
  let kept := significant digits
  if (natDigits maxValue).length < kept.length then none
  else
    let value := digitsValue kept
    if value ≤ maxValue then some value else none

@[simp]
theorem digitsValue_natDigits (n : Nat) : digitsValue (natDigits n) = n := by
  rw [natDigits_eq, digitsValue, Nat.ofDigitChars_ten_toDigits]

theorem natDigits_ne_nil (n : Nat) : natDigits n ≠ [] := by
  rw [natDigits_eq]
  exact Nat.toDigits_ne_nil

theorem isDigit_of_mem_natDigits {n : Nat} {c : Char} (h : c ∈ natDigits n) : c.isDigit := by
  rw [natDigits_eq] at h
  exact Nat.isDigit_of_mem_toDigits (by decide) (by decide) h

/-- Leading zeros do not count. -/
theorem digitsValue_significant (digits : List Char) :
    digitsValue (significant digits) = digitsValue digits := by
  induction digits with
  | nil => rfl
  | cons c rest ih =>
    by_cases h : c = '0'
    · subst h
      simpa [significant, digitsValue, Nat.ofDigitChars_cons] using ih
    · simp [significant, h]

end DiceFormula.Text
