/-
# Numbers in double precision

A number with a fraction or an exponent is kept in double precision: a mantissa
of at most 53 bits times a power of two.  `ofDecimal` finds the number nearest to
a decimal one, working with exact fractions throughout; of two equally near
numbers the one with the even mantissa is taken.
-/

import DiceFormula.Text.Digits

namespace DiceFormula

/-- A double-precision number.  A finite one is `mantissa * 2 ^ exponent` with a
sign, which zero has as well. -/
inductive Binary64 where
  | finite (negative : Bool) (mantissa : Nat) (exponent : Int)
  | infinite (negative : Bool)
  | nan
deriving DecidableEq

namespace Binary64

/-- The exponent of the smallest positive number. -/
def minExponent : Int := -1074

/-- The exponent of the largest finite numbers. -/
def maxExponent : Int := 971

def mantissaBits : Nat := 53

def zero (negative : Bool) : Binary64 :=
  finite negative 0 minExponent

/-- The natural number nearest to a fraction, an even one if two are equally near. -/
def roundQuotient (num den : Nat) : Nat :=
  let whole := num / den
  let rest := num % den
  if 2 * rest < den then whole
  else if den < 2 * rest then whole + 1
  else if whole % 2 = 0 then whole
  else whole + 1

/-- A fraction divided by a power of two, as numerator and denominator. -/
def divideByPower (num den : Nat) (exponent : Int) : Nat × Nat :=
  (num <<< (-exponent).toNat, den <<< exponent.toNat)

/-- The exponent with which a positive fraction has a full mantissa, or the
smallest exponent if the fraction is smaller than that. -/
def exponentOf (num den : Nat) : Int :=
  let guess := (num.log2 : Int) - den.log2 - mantissaBits
  let (top, bottom) := divideByPower num den guess
  max minExponent (if top / bottom < Nat.pow 2 mantissaBits then guess else guess + 1)

/-- The number nearest to a positive fraction. -/
def ofFraction (negative : Bool) (num den : Nat) : Binary64 :=
  let exponent := exponentOf num den
  let (top, bottom) := divideByPower num den exponent
  let mantissa := roundQuotient top bottom
  let carried := mantissa = Nat.pow 2 mantissaBits
  let exponent := if carried then exponent + 1 else exponent
  let mantissa := if carried then Nat.pow 2 (mantissaBits - 1) else mantissa
  if maxExponent < exponent then infinite negative else finite negative mantissa exponent

/-- The number nearest to `digits * 10 ^ exponent`.  Numbers far outside the range
are settled by their order of magnitude. -/
def ofDecimal (negative : Bool) (digits : Nat) (exponent : Int) : Binary64 :=
  let magnitude := exponent + (Text.natDigits digits).length
  if digits = 0 ∨ magnitude < -400 then zero negative
  else if 400 < magnitude then infinite negative
  else ofFraction negative (digits * Nat.pow 10 exponent.toNat) (Nat.pow 10 (-exponent).toNat)

/-- The number as an integer, if it is a whole one. -/
def toInt? : Binary64 → Option Int
  | finite negative mantissa exponent =>
    let unit := Nat.pow 2 (-exponent).toNat
    if mantissa % unit = 0 then
      let magnitude := mantissa / unit * Nat.pow 2 exponent.toNat
      some (if negative then -(magnitude : Int) else magnitude)
    else none
  | _ => none

def isFinite : Binary64 → Bool
  | finite .. => true
  | _ => false

end Binary64

end DiceFormula
