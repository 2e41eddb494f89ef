/-
# Shortest decimal texts

A double-precision number is shown with the fewest digits that still single it
out: among all decimal numbers that round to it, those with the fewest digits are
considered, and the nearest of them is taken.

The decimal numbers with a given last place form a grid.  If any of its points
rounds to the number, so does one of the number's two neighbours on the grid, so
looking at these two on finer and finer grids finds the shortest text.
-/

import DiceFormula.Decimal.Binary64

namespace DiceFormula

structure DecimalStyle where
  /-- Numbers from `10 ^ leastPositional` on are written without an exponent. -/
  leastPositional : Int
  /-- Numbers below `10 ^ leastExponential` are written without an exponent. -/
  leastExponential : Int
  /-- The least number of digits of an exponent. -/
  exponentWidth : Nat
deriving DecidableEq

/-- A decimal number `digits * 10 ^ place`. -/
structure Decimal where
  digits : Nat
  place : Int
deriving DecidableEq

namespace Decimal

/-- The factors by which a point of the grid of `10 ^ place` and a multiple of
`2 ^ (exponent - 2)` are multiplied to be compared as natural numbers. -/
def scales (place exponent : Int) : Nat × Nat :=
  (Nat.pow 10 place.toNat * Nat.pow 2 (2 - exponent).toNat,
    Nat.pow 2 (exponent - 2).toNat * Nat.pow 10 (-place).toNat)

/-- Four times the distance, in units of the last mantissa bit, from a number
down to the border of what rounds to it.  It is shorter below a power of two. -/
def gapBelow (mantissa : Nat) (exponent : Int) : Nat :=
  if mantissa = Nat.pow 2 (Binary64.mantissaBits - 1) ∧ Binary64.minExponent < exponent then 1 else 2

/-- The nearer of a number's two neighbours on a grid, of those that round to it. -/
def neighbour? (mantissa : Nat) (exponent place : Int) : Option Nat :=
  let (point, unit) := scales place exponent
  let value := 4 * mantissa * unit
  let low := (4 * mantissa - gapBelow mantissa exponent) * unit
  let high := (4 * mantissa + 2) * unit
  let rounds (n : Nat) : Bool :=
    if mantissa % 2 = 0 then low ≤ n * point && n * point ≤ high
    else low < n * point && n * point < high
  let below := value / point
  let above := below + 1
  if below ≠ 0 ∧ rounds below then
    if rounds above then
      let down := value - below * point
      let up := above * point - value
      if down < up ∨ (down = up ∧ below % 2 = 0) then some below else some above
    else some below
  else if rounds above then some above
  else none

/-- Looks at grids of falling place until one has a point that rounds to the number. -/
def search (mantissa : Nat) (exponent : Int) : Nat → Int → Decimal
  | 0, place => ⟨0, place⟩
  | grids + 1, place =>
    match neighbour? mantissa exponent place with
    | some digits => ⟨digits, place⟩
    | none => search mantissa exponent grids (place - 1)

/-- A place above the leading digit of a positive number. -/
def topPlace (mantissa : Nat) (exponent : Int) : Int :=
  ((mantissa.log2 + 1 : Int) + exponent) * 30103 / 100000 + 2

/-- The shortest decimal number that rounds to a positive number.  Seventeen
digits always do, and `topPlace` is at most three places too high. -/
def shortest (mantissa : Nat) (exponent : Int) : Decimal :=
  search mantissa exponent 22 (topPlace mantissa exponent)

/-- A number between zero and one or with an integer part, written without an
exponent.  `point` is where the point stands among the digits. -/
def positionalChars (digits : List Char) (point : Int) : List Char :=
  if point ≤ 0 then '0' :: '.' :: List.replicate (-point).toNat '0' ++ digits
  else if digits.length ≤ point then
    digits ++ List.replicate (point.toNat - digits.length) '0' ++ ['.', '0']
  else digits.take point.toNat ++ '.' :: digits.drop point.toNat

/-- A number with one digit before the point and an exponent with a sign. -/
def exponentialChars (style : DecimalStyle) (digits : List Char) (exponent : Int) : List Char :=
  let fraction := if digits.length ≤ 1 then [] else '.' :: digits.drop 1
  let sign := if exponent < 0 then '-' else '+'
  digits.take 1 ++ fraction ++ 'e' :: sign ::
    (Text.natDigits exponent.natAbs).leftpad style.exponentWidth '0'

/-- A positive decimal number written out. -/
def chars (style : DecimalStyle) (decimal : Decimal) : List Char :=
  let digits := Text.natDigits decimal.digits
  let point := decimal.place + digits.length
  if style.leastPositional < point ∧ point ≤ style.leastExponential then
    positionalChars digits point
  else exponentialChars style digits (point - 1)

end Decimal

namespace Binary64

/-- A number written out with the fewest digits. -/
def chars (style : DecimalStyle) : Binary64 → List Char
  | nan => "nan".toList
  | infinite negative => if negative then "-inf".toList else "inf".toList
  | finite negative mantissa exponent =>
    let magnitude :=
      if mantissa = 0 then ['0', '.', '0']
      else (Decimal.shortest mantissa exponent).chars style
    if negative then '-' :: magnitude else magnitude

end Binary64

end DiceFormula
