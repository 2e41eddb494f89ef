/-
# Integers written by people

An integer typed at a prompt or found in the environment may be surrounded by
space, carry a sign, use the digits of any script and group its digits with
single underscores.  Texts of more than `maxDigits` digits are turned down, and an
integer of more digits cannot be written out.
-/

import DiceFormula.Text.Blank
import DiceFormula.Text.DecimalDigit
import DiceFormula.Text.Digits

namespace DiceFormula.Text

/-- The largest number of digits an integer text may have. -/
def maxDigits : Nat := 4300

/-- An integer that has no more digits than the conversions between integers and texts
take. -/
def Convertible (n : Int) : Prop :=
  (natDigits n.natAbs).length ≤ maxDigits

instance (n : Int) : Decidable (Convertible n) :=
  inferInstanceAs (Decidable (_ ≤ _))

/-- The lowest limit on the digits of an integer that a host can be set to. -/
def leastLimit : Nat := 640

/-- How many digits an integer may have to be written out.  This is a setting of the host,
and a host can also be set to have no limit. -/
inductive DigitLimit where
  | unlimited
  | upTo (most : Nat) (enough : leastLimit ≤ most)

namespace DigitLimit

/-- The limit of a host that is not set to another. -/
def standard : DigitLimit :=
  .upTo maxDigits (by decide)

/-- An integer that can be written out within the limit. -/
def Spells : DigitLimit → Int → Prop
  | unlimited, _ => True
  | upTo most _, n => (natDigits n.natAbs).length ≤ most

instance : (limit : DigitLimit) → (n : Int) → Decidable (limit.Spells n)
  | unlimited, _ => inferInstanceAs (Decidable True)
  | upTo _ _, _ => inferInstanceAs (Decidable (_ ≤ _))

end DigitLimit

/-- The digit values of a run that may hold one underscore between two digits. -/
def groupedDigits? (digit? : Char → Option Nat) : List Char → Option (List Nat)
  | [] => none
  | [c] => (digit? c).map ([·])
  | c :: '_' :: rest => do
    let value ← digit? c
    let values ← groupedDigits? digit? rest
    pure (value :: values)
  | c :: rest => do
    let value ← digit? c
    let values ← groupedDigits? digit? rest
    pure (value :: values)

/-- The number that a list of digit values spells in decimal. -/
def decimalValue (digits : List Nat) : Nat :=
  digits.foldl (fun value digit => 10 * value + digit) 0

/-- Splits off a sign: whether it was a minus, and the rest. -/
def splitSign : List Char → Bool × List Char
  | '-' :: rest => (true, rest)
  | '+' :: rest => (false, rest)
  | chars => (false, chars)

/-- A magnitude with its sign. -/
def signedValue (negative : Bool) (magnitude : Nat) : Int :=
  if negative then -(magnitude : Int) else magnitude

/-- Reads an integer as people write it. -/
def readInt? (chars : List Char) : Option Int := do
  let (negative, body) := splitSign (trim isSpace chars)
  let digits ← groupedDigits? decimalDigit? body
  if maxDigits < digits.length then none
  else some (signedValue negative (decimalValue digits))

end DiceFormula.Text
