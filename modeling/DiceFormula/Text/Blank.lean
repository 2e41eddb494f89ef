/-
# Blank characters

Two sets are in use.  `isSpace` holds the characters that only make space; an
integer may be surrounded by them.  `isBlank` also holds the four controls that
separate files, groups, records and units; they are trimmed off a setting taken
from the environment.
-/

namespace DiceFormula.Text

/-- The characters that only make horizontal or vertical space. -/
def isSpace (c : Char) : Bool :=
  let code := c.toNat
  (9 ≤ code && code ≤ 13) || code == 0x20 || code == 0x85 || code == 0xa0 || code == 0x1680 ||
    (0x2000 ≤ code && code ≤ 0x200a) || code == 0x2028 || code == 0x2029 || code == 0x202f ||
    code == 0x205f || code == 0x3000

/-- Space, or one of the four information separators. -/
def isBlank (c : Char) : Bool :=
  isSpace c || (0x1c ≤ c.toNat && c.toNat ≤ 0x1f)

/-- Removes the characters of a class from both ends. -/
def trim (skipped : Char → Bool) (chars : List Char) : List Char :=
  ((chars.dropWhile skipped).reverse.dropWhile skipped).reverse

end DiceFormula.Text
