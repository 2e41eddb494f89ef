/-
# Sets of code points given by ranges

A property of characters that only a published table can decide is kept here as
the increasing list of its ranges.  `Char.inRanges` looks a character up and
stops at the first range that begins past it, so a table has to be sorted; the
common ASCII characters are then settled by the first entries.
-/

namespace DiceFormula.Text

/-- Whether a character's code point lies in one of the given closed ranges,
listed in increasing order. -/
def inRanges : List (Nat × Nat) → Char → Bool
  | [], _ => false
  | (first, last) :: rest, c =>
    if c.toNat < first then false
    else if c.toNat ≤ last then true
    else inRanges rest c

end DiceFormula.Text
