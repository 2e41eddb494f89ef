/-
# Division toward zero

A division is done on the magnitudes of its operands, and the sign is put back afterwards.
What comes out is the quotient toward zero: with it goes a remainder that is smaller than the
divisor and lies on the dividend's side of zero, and with no other quotient does such a
remainder go.

Magnitudes do not grow when they are divided, so a quotient of words is a word again.  The
only one that is not is that of the least word by minus one, because there are more words
below zero than above.

A division by zero fails with its dividend, which is spelled out in the message about it.
Words are always short enough for that; a longer dividend can be too long for the host.
-/

import DiceFormula.Proofs.GuardedEvaluation

namespace DiceFormula

/-- Divided with this quotient, the dividend leaves this remainder, which is smaller than the
divisor and, unless it is zero, has the sign of the dividend. -/
structure DividesTowardZero (left right quotient remainder : Int) : Prop where
  split : left = quotient * right + remainder
  smaller : remainder.natAbs < right.natAbs
  side : remainder = 0 ∨ remainder.sign = left.sign

namespace DividesTowardZero

variable {left right quotient remainder other otherRemainder : Int}

/-- A remainder is never on the other side of zero than its dividend. -/
theorem sameSide (divides : DividesTowardZero left right quotient remainder) :
    (0 ≤ left → 0 ≤ remainder) ∧ (left ≤ 0 → remainder ≤ 0) := by
  rcases divides.side with rfl | same
  · exact ⟨fun _ => Int.le_refl 0, fun _ => Int.le_refl 0⟩
  · constructor
    · intro above
      exact Int.sign_nonneg_iff.1 (same ▸ Int.sign_nonneg_iff.2 above)
    · intro below
      exact Int.sign_nonpos_iff.1 (same ▸ Int.sign_nonpos_iff.2 below)

/-- There is one quotient with such a remainder. -/
theorem quotient_eq (nonzero : right ≠ 0)
    (divides : DividesTowardZero left right quotient remainder)
    (divides' : DividesTowardZero left right other otherRemainder) : quotient = other := by
  -- Remainders on one side of zero are closer to each other than the divisor is to zero.
  have close : (otherRemainder - remainder).natAbs < right.natAbs := by
    have smaller := divides.smaller
    have otherSmaller := divides'.smaller
    have sides := divides.sameSide
    have otherSides := divides'.sameSide
    omega
  have multiple : (quotient - other) * right = otherRemainder - remainder := by
    have split := divides.split
    rw [divides'.split] at split
    rw [Int.sub_mul]
    omega
  have sameRemainder : otherRemainder - remainder = 0 :=
    Int.eq_zero_of_dvd_of_natAbs_lt_natAbs (Dvd.intro_left _ multiple) close
  rw [sameRemainder] at multiple
  have sameQuotient := (Int.mul_eq_zero.1 multiple).resolve_right nonzero
  omega

end DividesTowardZero

namespace Operator

/-- The quotient that is computed leaves such a remainder. -/
theorem dividesTowardZero_quotient (left : Int) {right : Int} (nonzero : right ≠ 0) :
    DividesTowardZero left right (quotient left right) (left.tmod right) := by
  rw [quotient_eq_tdiv]
  constructor
  · exact (Int.tdiv_mul_add_tmod left right).symm
  · rw [Int.natAbs_tmod]
    exact Nat.mod_lt _ (Int.natAbs_pos.2 nonzero)
  · by_cases exact : right ∣ left
    · exact .inl (Int.tmod_eq_zero_of_dvd exact)
    · right
      rw [Int.sign_tmod, if_neg exact]

theorem quotient_neg_left (left right : Int) : quotient (-left) right = -quotient left right := by
  rw [quotient_eq_tdiv, quotient_eq_tdiv, Int.neg_tdiv]

theorem quotient_neg_right (left right : Int) : quotient left (-right) = -quotient left right := by
  rw [quotient_eq_tdiv, quotient_eq_tdiv, Int.tdiv_neg]

theorem natAbs_quotient (left right : Int) :
    (quotient left right).natAbs = left.natAbs / right.natAbs := by
  rw [quotient_eq_tdiv]
  exact Int.natAbs_tdiv left right

/-- The quotient of a word is a word, except that of the least one by minus one. -/
theorem quotient_mem_wordRange_iff {left right : Int} (fits : left ∈ wordRange)
    (nonzero : right ≠ 0) :
    quotient left right ∈ wordRange ↔ ¬ (left = -2 ^ 63 ∧ right = -1) := by
  obtain ⟨atLeast, atMost⟩ := fits
  rw [wordRange, Set.mem_ofPred_eq]
  by_cases unit : right = 1 ∨ right = -1
  · rcases unit with rfl | rfl
    · rw [quotient_eq_tdiv, Int.tdiv_one]
      omega
    · rw [quotient_neg_right, quotient_eq_tdiv, Int.tdiv_one]
      omega
  · -- At most half of a word is far from the bounds.
    have magnitude := natAbs_quotient left right
    have halved : left.natAbs / right.natAbs ≤ left.natAbs / 2 :=
      Nat.div_le_div_left (by omega) (by decide)
    omega

/-- A division of words is the quotient, but for the one that is out of range. -/
theorem apply_div_of_mem {left right : Int} (fits : left ∈ wordRange) (nonzero : right ≠ 0) :
    div.apply left right =
      if left = -2 ^ 63 ∧ right = -1 then .error (.overflow (.apply .div left right))
      else .ok (quotient left right) := by
  have inRange := quotient_mem_wordRange_iff fits nonzero
  rw [apply, if_neg nonzero]
  by_cases least : left = -2 ^ 63 ∧ right = -1
  · rw [if_pos least, checked_of_notMem fun within => inRange.1 within least]
  · rw [if_neg least, checked_of_mem (inRange.2 least)]

end Operator

end DiceFormula
