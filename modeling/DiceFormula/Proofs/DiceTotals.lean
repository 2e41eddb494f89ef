/-
# Totals of dice

A die shows a number from one to its faces, so the total of a roll lies between the number
of its dice and that number times the faces.  No die takes anything away: a running sum that
has left the range stays out of it, and the total is out of range exactly if some running sum
is.  So it makes no difference whether the sum is checked after every die or once behind the
last, as long as all the dice are drawn either way.

None of this holds for a source that leaves the bounds it is asked for, which is why what the
source says to the dice of the roll is looked at here, and nothing else about it.
-/

import DiceFormula.Dice.Seeded
import DiceFormula.Proofs.TwoRuns
import Mathlib.Algebra.Order.BigOperators.Group.List

namespace DiceFormula

section Sums

variable {values : List Int}

theorem notMem_wordRange_iff_of_nonneg {total : Int} (nonneg : 0 ≤ total) :
    total ∉ wordRange ↔ 2 ^ 63 - 1 < total := by
  rw [wordRange, Set.mem_ofPred_eq]
  omega

/-- Dice add up to at least one for each and at most the faces for each. -/
theorem sum_of_within {faces : Int} (within : ∀ value ∈ values, 1 ≤ value ∧ value ≤ faces) :
    (values.length : Int) ≤ values.sum ∧ values.sum ≤ values.length * faces := by
  constructor
  · simpa using values.card_nsmul_le_sum 1 fun value member => (within value member).1
  · simpa using values.sum_le_card_nsmul faces fun value member => (within value member).2

/-- Running sums only grow. -/
theorem sum_take_le (nonneg : ∀ value ∈ values, 0 ≤ value) (drawn : Nat) :
    0 ≤ (values.take drawn).sum ∧ (values.take drawn).sum ≤ values.sum := by
  have front : 0 ≤ (values.take drawn).sum :=
    List.sum_nonneg fun value member => nonneg value (List.mem_of_mem_take member)
  have back : 0 ≤ (values.drop drawn).sum :=
    List.sum_nonneg fun value member => nonneg value (List.mem_of_mem_drop member)
  have split := values.sum_take_add_sum_drop drawn
  omega

/-- The total is out of range if and only if some running sum is. -/
theorem sum_notMem_wordRange_iff (nonneg : ∀ value ∈ values, 0 ≤ value) :
    values.sum ∉ wordRange ↔ ∃ drawn ≤ values.length, (values.take drawn).sum ∉ wordRange := by
  constructor
  · intro beyond
    exact ⟨values.length, Nat.le_refl _, by rwa [List.take_length]⟩
  · rintro ⟨drawn, -, beyond⟩
    obtain ⟨atLeast, atMost⟩ := sum_take_le nonneg drawn
    rw [notMem_wordRange_iff_of_nonneg atLeast] at beyond
    rw [notMem_wordRange_iff_of_nonneg (atLeast.trans atMost)]
    exact beyond.trans_le atMost

end Sums

/-- The sum with one die more, checked at once.  A sum that was out of range is not added to. -/
def addChecking (operation : Operation) (soFar : Except EvalError Int) (value : Int) :
    Except EvalError Int := do
  let total ← soFar
  checked (total + value) operation

/-- As long as nothing is taken away it is enough to check the sum later. -/
theorem addChecking_checked {total value : Int} (nonneg : 0 ≤ total) (more : 0 ≤ value)
    (operation : Operation) :
    addChecking operation (checked total operation) value = checked (total + value) operation := by
  by_cases fits : total ∈ wordRange
  · rw [checked_of_mem fits]
    rfl
  · have beyond : total + value ∉ wordRange := by
      rw [notMem_wordRange_iff_of_nonneg nonneg] at fits
      rw [notMem_wordRange_iff_of_nonneg (Int.add_nonneg nonneg more)]
      omega
    rw [checked_of_notMem fits, checked_of_notMem beyond]
    rfl

variable {σ : Type} [RandomSource σ]

namespace Play

/-- Draws a number of dice with the same faces and checks the sum after each of them.  All of
them are drawn, whatever has become of the sum. -/
def drawDiceChecking (faces : Int) (operation : Operation) :
    (count : Nat) → (soFar : Except EvalError Int) → Play σ →
      Except DrawFailure (Except EvalError Int) × Play σ
  | 0, soFar, play => (.ok soFar, play)
  | count + 1, soFar, play =>
    match play.draw 1 faces with
    | (.error failure, next) => (.error failure, next)
    | (.ok value, next) =>
      drawDiceChecking faces operation count (addChecking operation soFar value) next

/-- Rolls dice and checks the sum after each of them. -/
def rollChecking (play : Play σ) (count : Nat) (faces : Int) :
    Except DrawFailure (Except EvalError Int) × Play σ :=
  if faces < 1 then (.ok (.error (.invalidDice count faces)), play)
  else play.drawDiceChecking faces (.roll count faces) count (.ok 0)

end Play

/-- Whatever a source says to these dice in turn, a number lies between one and the faces. -/
def DiceWithin (source : σ) (count : Nat) (faces : Int) : Prop :=
  ∀ value, .ok value ∈ answersTo source (List.replicate count (.draw 1 faces)) →
    1 ≤ value ∧ value ≤ faces

namespace DiceWithin

variable {source next : σ} {count : Nat} {faces value : Int}

/-- The first of some dice is within the bounds, and the others are. -/
theorem first_and_rest (within : DiceWithin source (count + 1) faces)
    (answer : RandomSource.draw source 1 faces = (.ok value, next)) :
    (1 ≤ value ∧ value ≤ faces) ∧ DiceWithin next count faces := by
  have told : answersTo source (List.replicate (count + 1) (.draw 1 faces)) =
      .ok value :: answersTo next (List.replicate count (.draw 1 faces)) := by
    rw [List.replicate_succ, answersTo, answer]
  rw [DiceWithin, told] at within
  exact ⟨within value List.mem_cons_self, fun other member =>
    within other (List.mem_cons_of_mem _ member)⟩

theorem of_answers {values : List Int} (within : DiceWithin source count faces)
    (answers : Answers source (List.replicate count (.draw 1 faces)) values next) :
    ∀ value ∈ values, 1 ≤ value ∧ value ≤ faces := by
  intro value member
  apply within
  rw [answers.answersTo_eq]
  exact List.mem_map_of_mem member

end DiceWithin

/-- Seeded dice keep to the bounds. -/
theorem SeededSource.diceWithin (source : SeededSource) (count : Nat) {faces : Int}
    (hasFaces : 1 ≤ faces) : DiceWithin source count faces := by
  induction count generalizing source with
  | zero =>
      intro value member
      cases member
  | succ count ih =>
      obtain ⟨seed, generator⟩ := source
      have nonempty : ¬ faces < 1 := by omega
      have below : (generator.below (faces - 1 + 1).toNat).1 < (faces - 1 + 1).toNat :=
        Twister.below_lt (by omega) generator
      intro value member
      simp only [List.replicate_succ, answersTo, RandomSource.draw, draw, if_neg nonempty,
        List.mem_cons, Except.ok.injEq] at member
      rcases member with rfl | later
      · omega
      · exact ih _ value later

namespace Play

variable {count : Nat} {faces : Int}

/-- Checked after every die, dice come to what they come to when their sum is checked. -/
theorem drawDiceChecking_eq {play : Play σ} (within : DiceWithin play.source count faces)
    {total : Int} (nonneg : 0 ≤ total) (operation : Operation) :
    play.drawDiceChecking faces operation count (checked total operation) =
      match play.drawDice faces count total with
      | (.error failure, next) => (.error failure, next)
      | (.ok sum, next) => (.ok (checked sum operation), next) := by
  induction count generalizing play total with
  | zero => rfl
  | succ count ih =>
      obtain ⟨source, record⟩ := play
      simp only [drawDiceChecking, drawDice, draw]
      rcases answer : RandomSource.draw source 1 faces with ⟨failure | value, next⟩
      · rfl
      · obtain ⟨⟨atLeast, -⟩, later⟩ := within.first_and_rest answer
        have more : 0 ≤ value := by omega
        simp only [addChecking_checked nonneg more]
        exact ih later (Int.add_nonneg nonneg more)

/-- A check after every die makes no difference. -/
theorem rollChecking_eq {play : Play σ} (within : DiceWithin play.source count faces) :
    play.rollChecking count faces = play.roll count faces := by
  by_cases faceless : faces < 1
  · rw [rollChecking, roll, if_pos faceless, if_pos faceless]
  · have nothingYet : (0 : Int) ∈ wordRange := by decide
    rw [rollChecking, roll, if_neg faceless, if_neg faceless,
      ← checked_of_mem nothingYet (.roll count faces)]
    exact drawDiceChecking_eq within (Int.le_refl 0) _

/-- A roll comes to something if and only if all its dice are answered. -/
theorem exists_roll_iff {play : Play σ} (hasFaces : 1 ≤ faces) :
    (∃ outcome, (play.roll count faces).1 = .ok outcome) ↔
      ∃ values next, Answers play.source (List.replicate count (.draw 1 faces)) values next := by
  constructor
  · rintro ⟨outcome, rolled⟩
    rcases answers_or_refuses play.source (List.replicate count (.draw 1 faces)) with
      answered | ⟨made, failure, next, refuses⟩
    · exact answered
    · have faced : ¬ faces < 1 := by omega
      simp only [roll, if_neg faced, drawDice_of_refuses refuses play.record] at rolled
      cases rolled
  · rintro ⟨values, next, answers⟩
    exact ⟨_, congrArg Prod.fst (roll_eq hasFaces answers play.record)⟩

/-- What the dice of a roll add up to, and what the roll comes to. -/
theorem roll_of_answers {play : Play σ} {values : List Int} {next : σ} (hasFaces : 1 ≤ faces)
    (within : DiceWithin play.source count faces)
    (answers : Answers play.source (List.replicate count (.draw 1 faces)) values next) :
    (count : Int) ≤ values.sum ∧ values.sum ≤ count * faces ∧
    (values.sum ∉ wordRange ↔ ∃ drawn ≤ count, (values.take drawn).sum ∉ wordRange) ∧
    play.roll count faces =
      (.ok (if values.sum ≤ 2 ^ 63 - 1 then .ok values.sum
          else .error (.overflow (.roll count faces))),
        ⟨next, List.replicate count (.draw 1 faces) ++ play.record⟩) := by
  have drawn := within.of_answers answers
  have nonneg : ∀ value ∈ values, 0 ≤ value := by
    intro value member
    have atLeast := (drawn value member).1
    omega
  have oneForEach : values.length = count := by
    rw [answers.length_eq, List.countP_replicate]
    exact if_pos rfl
  obtain ⟨atLeast, atMost⟩ := sum_of_within drawn
  have running := sum_notMem_wordRange_iff nonneg
  rw [oneForEach] at atLeast atMost running
  refine ⟨atLeast, atMost, running, ?_⟩
  have beyond : values.sum ∉ wordRange ↔ 2 ^ 63 - 1 < values.sum :=
    notMem_wordRange_iff_of_nonneg (by omega)
  rw [roll_eq hasFaces answers play.record]
  by_cases fits : values.sum ≤ 2 ^ 63 - 1
  · rw [if_pos fits, checked_of_mem]
    by_contra notWithin
    exact Int.not_lt.2 fits (beyond.1 notWithin)
  · rw [if_neg fits, checked_of_notMem (beyond.2 (Int.not_le.1 fits))]

/-- The greatest value and one more, drawn from a list: the roll overflows behind its last
die. -/
example :
    let source := ReplaySource.start #[9223372036854775807, 1]
    let faces : Int := 9223372036854775807
    (Play.start source).roll 2 faces =
      (.ok (.error (.overflow (.roll 2 faces))),
        ⟨⟨#[9223372036854775807, 1], 2, #[(1, faces), (1, faces)]⟩,
          [.draw 1 faces, .draw 1 faces]⟩) := by
  rfl

/-- With a die that shows less than one it does matter when the sum is checked. -/
example :
    let play := Play.start (ReplaySource.start #[9223372036854775807, 1, -1])
    (play.roll 3 6).1 = .ok (.ok 9223372036854775807) ∧
      (play.rollChecking 3 6).1 = .ok (.error (.overflow (.roll 3 6))) := by
  exact ⟨rfl, rfl⟩

end Play

end DiceFormula
