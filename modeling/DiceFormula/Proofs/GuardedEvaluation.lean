/-
# Evaluating with every reliance tested

Evaluation relies on facts that it does not look at: that there is a first term and that
operators and terms end together, that no die is drawn without faces, that a divisor is not
zero, that the numbers in a message can be spelled out.  Here terms and operators are
evaluated with each of these tested where it is relied on.

A message is made whether or not it is needed, about the operands wherever an operator is
applied and about the dice of a roll behind its draws, and the host says how long a number
in it may be.  So the evaluation of a formula is the one without tests, or it breaks off
behind some term because a message cannot be made.  It breaks off for nothing else.  What is
looked up, rolled or computed fits into a word and is never too long, so the number that is
too long stands in the formula, and a host without a limit does not break off at all.
-/

import DiceFormula.Proofs.Answered
import DiceFormula.Proofs.GuardedReading
import DiceFormula.Proofs.RoundTrip

namespace DiceFormula

namespace Guarded

variable {ρ σ : Type} [Resolver ρ] [RandomSource σ]

/-- Numbers in a message are spelled out. -/
def mention (limit : Text.DigitLimit) (numbers : List Int) : Except Breach Unit :=
  if ∀ number ∈ numbers, limit.Spells number then .ok () else .error .tooManyDigits

/-- A quotient without its fraction, from the quotient of the magnitudes. -/
def divide (left right : Int) : Except Breach Int :=
  if right.natAbs = 0 then .error .divisionByZero
  else
    let quotient : Int := (left.natAbs / right.natAbs : Nat)
    .ok (if left < 0 ↔ right < 0 then quotient else -quotient)

/-- Applies an operator.  The message about its operands is made whether or not it is
needed. -/
def apply (limit : Text.DigitLimit) (op : Operator) (left right : Int) :
    Except Breach (Except EvalError Int) :=
  match op with
  | .add => do
    mention limit [left, right]
    pure (checked (left + right) (.apply op left right))
  | .sub => do
    mention limit [left, right]
    pure (checked (left - right) (.apply op left right))
  | .mul => do
    mention limit [left, right]
    pure (checked (left * right) (.apply op left right))
  | .div =>
    if right = 0 then do
      mention limit [left]
      pure (.error (.divisionByZero left))
    else do
      let quotient ← divide left right
      mention limit [left, right]
      pure (checked quotient (.apply op left right))

def combine (limit : Text.DigitLimit) (op : Operator) (left right : Except EvalError Int) :
    Except Breach (Except EvalError Int) :=
  match left, right with
  | .ok leftValue, .ok rightValue => apply limit op leftValue rightValue
  | .error failure, _ => pure (.error failure)
  | .ok _, .error failure => pure (.error failure)

/-- Draws a number, and there has to be one between the bounds. -/
def draw (play : Play σ) (low high : Int) : Except Breach (Except DrawFailure Int) × Play σ :=
  if high < low then (.error .emptyRange, play)
  else
    match play.draw low high with
    | (answer, next) => (.ok answer, next)

def drawDice (faces : Int) :
    (count : Nat) → (total : Int) → Play σ → Except Breach (Except DrawFailure Int) × Play σ
  | 0, total, play => (.ok (.ok total), play)
  | count + 1, total, play =>
    match draw play 1 faces with
    | (.error breach, next) => (.error breach, next)
    | (.ok (.error failure), next) => (.ok (.error failure), next)
    | (.ok (.ok value), next) => drawDice faces count (total + value) next

/-- Makes the message about what was come to, if draws were answered. -/
def announce {α β : Type} (limit : Text.DigitLimit) (numbers : List Int) :
    Except DrawFailure α × β → Except Breach (Except DrawFailure α) × β
  | (.error failure, state) => (.ok (.error failure), state)
  | (.ok outcome, state) => ((mention limit numbers).map fun _ => .ok outcome, state)

/-- Rolls dice.  The roll is spelled out for a message whether or not it is needed. -/
def roll (limit : Text.DigitLimit) (play : Play σ) (count : Nat) (faces : Int) :
    Except Breach (Except DrawFailure (Except EvalError Int)) × Play σ :=
  if faces < 1 then announce limit [count, faces] (.ok (.error (.invalidDice count faces)), play)
  else
    match drawDice faces count 0 play with
    | (.error breach, next) => (.error breach, next)
    | (.ok drawn, next) =>
      announce limit [count, faces]
        (drawn.map fun total => checked total (.roll count faces), next)

/-- Resolves a term.  Only dice rely on anything. -/
def resolve (limit : Text.DigitLimit) (round : Round ρ σ) :
    Term → Except Breach (Except DrawFailure (Except EvalError Int)) × Round ρ σ
  | .roll count faces =>
    match round with
    | ⟨play, resolver⟩ =>
      match roll limit play count faces with
      | (outcome, next) => (outcome, ⟨next, resolver⟩)
  | term =>
    match round.resolve term with
    | (outcome, next) => (.ok outcome, next)

/-- Goes through operators and terms together, which have to end together. -/
def foldPairs (limit : Text.DigitLimit) :
    List Operator → List Term → Except EvalError Int → Round ρ σ →
      Except Breach (Except DrawFailure (Except EvalError Int)) × Round ρ σ
  | [], [], outcome, round => (.ok (.ok outcome), round)
  | op :: operators, term :: terms, outcome, round =>
    match resolve limit round term with
    | (.error breach, next) => (.error breach, next)
    | (.ok (.error failure), next) => (.ok (.error failure), next)
    | (.ok (.ok operand), next) =>
      match combine limit op outcome operand with
      | .error breach => (.error breach, next)
      | .ok combined => foldPairs limit operators terms combined next
  | _, _, _, round => (.error .unequalLengths, round)

/-- Goes on with further operators and terms, unless the evaluation has broken off. -/
def goOn (limit : Text.DigitLimit) (operators : List Operator) (terms : List Term) :
    Except Breach (Except DrawFailure (Except EvalError Int)) × Round ρ σ →
      Except Breach (Except DrawFailure (Except EvalError Int)) × Round ρ σ
  | (.error breach, round) => (.error breach, round)
  | (.ok (.error failure), round) => (.ok (.error failure), round)
  | (.ok (.ok outcome), round) => foldPairs limit operators terms outcome round

/-- Evaluates terms and operators: what they come to and the round afterwards, also where
the evaluation breaks off. -/
def evaluate (limit : Text.DigitLimit) (sequence : Sequence) (resolver : ρ) (play : Play σ) :
    Except Breach (Except DrawFailure (Except EvalError Int)) × Round ρ σ :=
  match sequence.terms with
  | [] => (.error .noTerm, ⟨play, resolver⟩)
  | first :: rest => goOn limit sequence.operators rest (resolve limit ⟨play, resolver⟩ first)

/-- Reads a text and evaluates what was read, on a host with the usual limit. -/
def evaluateText (text : String) (resolver : ρ) (play : Play σ) :
    Except Breach
      (Except SyntaxFault (Except DrawFailure (Except EvalError Int)) × Round ρ σ) :=
  match parse text.toList with
  | .error (.breach breach) => .error breach
  | .error (.fault fault) => .ok (.error fault, ⟨play, resolver⟩)
  | .ok sequence =>
    match evaluate .standard sequence resolver play with
    | (.error breach, _) => .error breach
    | (.ok outcome, next) => .ok (.ok outcome, next)

end Guarded

/-- Evaluates a formula with everything it relies on tested. -/
def Formula.evaluateWithin {ρ σ : Type} [Resolver ρ] [RandomSource σ] (limit : Text.DigitLimit)
    (formula : Formula) (resolver : ρ) (play : Play σ) :
    Except Breach (Except DrawFailure (Except EvalError Int)) × Round ρ σ :=
  Guarded.evaluate limit (.ofFormula formula) resolver play

namespace Guarded

variable {limit : Text.DigitLimit}

section Operators

theorem mention_pair (left right : Int) :
    mention limit [left, right] =
      if limit.Spells left ∧ limit.Spells right then .ok () else .error .tooManyDigits := by
  have both : (∀ number ∈ [left, right], limit.Spells number) ↔
      limit.Spells left ∧ limit.Spells right := by
    rw [List.forall_mem_cons, List.forall_mem_singleton]
  simp only [mention, both]

theorem divide_eq {left right : Int} (nonzero : right ≠ 0) :
    divide left right = .ok (Operator.quotient left right) := by
  rw [divide, if_neg (Int.natAbs_ne_zero.2 nonzero)]
  rfl

theorem spells_of_mem_wordRange (limit : Text.DigitLimit) {value : Int}
    (fits : value ∈ wordRange) : limit.Spells value := by
  obtain ⟨atLeast, atMost⟩ := fits
  refine Text.DigitLimit.spells_of_natAbs_lt ?_ limit
  calc
    value.natAbs < 10 ^ 19 := by omega
    _ ≤ 10 ^ Text.leastLimit := Nat.pow_le_pow_right (by decide) (by decide)

/-- An operator needs nothing but that its operands can be spelled out. -/
theorem apply_eq (limit : Text.DigitLimit) (op : Operator) (left right : Int) :
    apply limit op left right =
      if limit.Spells left ∧ limit.Spells right then .ok (op.apply left right)
      else .error .tooManyDigits := by
  cases op with
  | add | sub | mul =>
      rw [apply, mention_pair]
      split_ifs <;> rfl
  | div =>
      by_cases zero : right = 0
      · have zeroSpelled : limit.Spells right :=
          spells_of_mem_wordRange limit (zero ▸ by decide)
        simp only [apply, Operator.apply, if_pos zero, mention, List.forall_mem_singleton,
          zeroSpelled, and_true]
        split_ifs <;> rfl
      · simp only [apply, Operator.apply, if_neg zero, divide_eq zero, mention_pair]
        split_ifs <;> rfl

/-- If an outcome is a value, the value can be spelled out. -/
def Spelled (limit : Text.DigitLimit) (outcome : Except EvalError Int) : Prop :=
  ∀ value, outcome = .ok value → limit.Spells value

theorem spelled_checked (value : Int) (operation : Operation) :
    Spelled limit (checked value operation) := by
  intro result isValue
  by_cases fits : value ∈ wordRange
  · rw [checked_of_mem fits] at isValue
    exact Except.ok.inj isValue ▸ spells_of_mem_wordRange limit fits
  · rw [checked_of_notMem fits] at isValue
    cases isValue

theorem spelled_error (failure : EvalError) : Spelled limit (.error failure) := by
  intro value isValue
  cases isValue

theorem spelled_combine (op : Operator) (left right : Except EvalError Int) :
    Spelled limit (op.combine left right) := by
  cases left with
  | error failure => exact spelled_error failure
  | ok leftValue =>
      cases right with
      | error failure => exact spelled_error failure
      | ok rightValue =>
          cases op with
          | add | sub | mul => exact spelled_checked _ _
          | div =>
              rw [Operator.combine, Operator.apply]
              split_ifs
              · exact spelled_error _
              · exact spelled_checked _ _

/-- Outcomes are combined as without a test, or one of them is too long a value. -/
theorem combine_eq_or (limit : Text.DigitLimit) (op : Operator)
    (left right : Except EvalError Int) :
    combine limit op left right = .ok (op.combine left right) ∨
      combine limit op left right = .error .tooManyDigits ∧
        ¬ (Spelled limit left ∧ Spelled limit right) := by
  cases left with
  | error failure => exact .inl rfl
  | ok leftValue =>
      cases right with
      | error failure => exact .inl rfl
      | ok rightValue =>
          rw [combine, apply_eq]
          by_cases spelled : limit.Spells leftValue ∧ limit.Spells rightValue
          · exact .inl (if_pos spelled)
          · refine .inr ⟨if_neg spelled, fun ⟨left, right⟩ => spelled ⟨?_, ?_⟩⟩
            · exact left leftValue rfl
            · exact right rightValue rfl

end Operators

section Terms

variable {ρ σ : Type} [Resolver ρ] [RandomSource σ]

theorem announce_of_spelled {α β : Type} {numbers : List Int}
    (spelled : ∀ number ∈ numbers, limit.Spells number) (result : Except DrawFailure α × β) :
    announce limit numbers result = (.ok result.1, result.2) := by
  obtain ⟨answer, state⟩ := result
  cases answer with
  | error failure => rfl
  | ok outcome =>
      rw [announce, mention, if_pos spelled]
      rfl

theorem announce_of_not_spelled {α β : Type} {numbers : List Int}
    (tooLong : ¬ ∀ number ∈ numbers, limit.Spells number) (outcome : α) (state : β) :
    announce limit numbers (.ok outcome, state) = (.error .tooManyDigits, state) := by
  rw [announce, mention, if_neg tooLong]
  rfl

/-- Making a message changes nothing about what was come to. -/
theorem fst_of_announce {α β : Type} {numbers : List Int} {result : Except DrawFailure α × β}
    {answer : Except DrawFailure α} (announced : (announce limit numbers result).1 = .ok answer) :
    result.1 = answer := by
  by_cases spelled : ∀ number ∈ numbers, limit.Spells number
  · rw [announce_of_spelled spelled] at announced
    exact Except.ok.inj announced
  · obtain ⟨failure | outcome, state⟩ := result
    · exact Except.ok.inj announced
    · rw [announce_of_not_spelled spelled] at announced
      cases announced

/-- Dice with faces have numbers to be drawn. -/
theorem drawDice_eq {faces : Int} (hasFaces : 1 ≤ faces) (count : Nat) (total : Int)
    (play : Play σ) :
    drawDice faces count total play =
      (.ok (play.drawDice faces count total).1, (play.drawDice faces count total).2) := by
  induction count generalizing total play with
  | zero => rfl
  | succ count ih =>
      have nonempty : ¬ faces < 1 := Int.not_lt.2 hasFaces
      simp only [drawDice, draw, if_neg nonempty, Play.drawDice]
      rcases play.draw 1 faces with ⟨answer, next⟩
      cases answer with
      | error failure => rfl
      | ok value => exact ih (total + value) next

/-- A roll needs nothing but that it can be spelled out. -/
theorem roll_eq (limit : Text.DigitLimit) (play : Play σ) (count : Nat) (faces : Int) :
    roll limit play count faces = announce limit [count, faces] (play.roll count faces) := by
  by_cases faceless : faces < 1
  · rw [roll, Play.roll, if_pos faceless, if_pos faceless]
  · rw [roll, Play.roll, if_neg faceless, if_neg faceless,
      drawDice_eq (Int.not_lt.1 faceless)]
    rcases play.drawDice faces count 0 with ⟨sum, next⟩
    cases sum with
    | error failure => rfl
    | ok total => rfl

/-- The numbers in the message that is made about a term. -/
def mentioned : Term → List Int
  | .roll count faces => [count, faces]
  | _ => []

theorem mentioned_subset (term : Term) : mentioned term ⊆ term.numbers := by
  cases term with
  | roll count faces => exact List.Subset.refl _
  | literal value => exact List.nil_subset _
  | identifier name => exact List.nil_subset _

theorem resolve_eq (limit : Text.DigitLimit) (round : Round ρ σ) (term : Term) :
    resolve limit round term = announce limit (mentioned term) (round.resolve term) := by
  obtain ⟨play, resolver⟩ := round
  cases term with
  | literal value => rfl
  | identifier name => rfl
  | roll count faces =>
      simp only [resolve, roll_eq, Round.resolve, mentioned]
      rcases play.roll count faces with ⟨outcome, next⟩
      cases outcome with
      | error failure => rfl
      | ok outcome => rfl

theorem spelled_lookedUp (name : Name) (found : Option Int) :
    Spelled limit (Round.lookedUp name found) := by
  cases found with
  | none => exact spelled_error (.unknownIdentifier name.text)
  | some value => exact spelled_checked value (.lookup name.text)

/-- Where the numbers of a term can be spelled out, so can what it comes to. -/
theorem spelled_of_resolve {term : Term} (spelled : ∀ number ∈ term.numbers, limit.Spells number)
    {round : Round ρ σ} {outcome : Except EvalError Int}
    (resolved : (round.resolve term).1 = .ok outcome) : Spelled limit outcome := by
  obtain ⟨play, resolver⟩ := round
  cases term with
  | literal value =>
      cases resolved
      intro number isNumber
      cases isNumber
      exact spelled value (List.mem_singleton_self _)
  | identifier name =>
      cases resolved
      exact spelled_lookedUp name (Resolver.lookUp resolver name.text).1
  | roll count faces =>
      simp only [Round.resolve, Play.roll] at resolved
      by_cases faceless : faces < 1
      · rw [if_pos faceless] at resolved
        cases resolved
        exact spelled_error _
      · rw [if_neg faceless] at resolved
        rcases drawn : play.drawDice faces count 0 with ⟨sum, next⟩
        rw [drawn] at resolved
        cases sum with
        | error failure => cases resolved
        | ok total =>
            cases resolved
            exact spelled_checked total (.roll count faces)

/-- Carried through some steps, an outcome comes to what it comes to without tests, or the
evaluation breaks off behind one of them. -/
theorem foldPairs_eq_or (limit : Text.DigitLimit) (steps : List (Operator × Term))
    (soFar : Except EvalError Int) (round : Round ρ σ) :
    foldPairs limit (steps.map Prod.fst) (steps.map Prod.snd) soFar round =
        (.ok (round.foldSteps steps soFar).1, (round.foldSteps steps soFar).2) ∨
      ∃ before later outcome next, steps = before ++ later ∧
        round.foldSteps before soFar = (.ok outcome, next) ∧
        foldPairs limit (steps.map Prod.fst) (steps.map Prod.snd) soFar round =
          (.error .tooManyDigits, next) ∧
        ¬ (Spelled limit soFar ∧
          ∀ term ∈ before.map Prod.snd, ∀ number ∈ term.numbers, limit.Spells number) := by
  induction steps generalizing soFar round with
  | nil => exact .inl rfl
  | cons step steps ih =>
      obtain ⟨op, term⟩ := step
      have operandSpelled (spelled : ∀ number ∈ term.numbers, limit.Spells number)
          {operand : Except EvalError Int} :
          (round.resolve term).1 = .ok operand → Spelled limit operand :=
        spelled_of_resolve spelled
      simp only [List.map_cons, foldPairs, resolve_eq, Round.foldSteps]
      rcases resolved : round.resolve term with ⟨answer, next⟩
      rw [resolved] at operandSpelled
      cases answer with
      | error failure => exact .inl rfl
      | ok operand =>
          have here : round.foldSteps [(op, term)] soFar =
              (.ok (op.combine soFar operand), next) := by
            simp only [Round.foldSteps, resolved]
          by_cases spelled : ∀ number ∈ mentioned term, limit.Spells number
          · rw [announce_of_spelled spelled]
            dsimp only
            rcases combine_eq_or limit op soFar operand with combined | ⟨combined, tooLong⟩
            · rw [combined]
              rcases ih (op.combine soFar operand) next with
                same | ⟨before, later, outcome, last, rfl, folded, brokenOff, tooLong⟩
              · exact .inl same
              · refine .inr ⟨(op, term) :: before, later, outcome, last, rfl, ?_, brokenOff, ?_⟩
                · simp only [Round.foldSteps, resolved, folded]
                · rintro ⟨-, numbersSpelled⟩
                  rw [List.map_cons, List.forall_mem_cons] at numbersSpelled
                  exact tooLong ⟨spelled_combine op soFar operand, numbersSpelled.2⟩
            · rw [combined]
              refine .inr ⟨[(op, term)], steps, _, next, rfl, here, rfl, ?_⟩
              rintro ⟨soFarSpelled, numbersSpelled⟩
              have termSpelled := numbersSpelled term (List.mem_singleton_self _)
              exact tooLong ⟨soFarSpelled, operandSpelled termSpelled rfl⟩
          · rw [announce_of_not_spelled spelled]
            refine .inr ⟨[(op, term)], steps, _, next, rfl, here, rfl, ?_⟩
            rintro ⟨-, numbersSpelled⟩
            refine spelled fun number member => ?_
            exact numbersSpelled term (List.mem_singleton_self _) number
              (mentioned_subset term member)

/-- Operators and terms that are gone through in two parts. -/
theorem foldPairs_append (before later : List (Operator × Term)) (soFar : Except EvalError Int)
    (round : Round ρ σ) :
    foldPairs limit ((before ++ later).map Prod.fst) ((before ++ later).map Prod.snd) soFar round =
      goOn limit (later.map Prod.fst) (later.map Prod.snd)
        (foldPairs limit (before.map Prod.fst) (before.map Prod.snd) soFar round) := by
  induction before generalizing soFar round with
  | nil => rfl
  | cons step before ih =>
      obtain ⟨op, term⟩ := step
      simp only [List.cons_append, List.map_cons, foldPairs]
      rcases resolve limit round term with ⟨breach | failure | operand, next⟩
      · rfl
      · rfl
      · dsimp only
        cases combine limit op soFar operand with
        | error breach => rfl
        | ok combined => exact ih combined next

end Terms

end Guarded

namespace Formula

variable {ρ σ : Type} [Resolver ρ] [RandomSource σ] {limit : Text.DigitLimit} {formula : Formula}
  {resolver : ρ} {play : Play σ}

/-- The evaluation comes to an end, whatever the end is, and is not broken off. -/
def EndsWithin (limit : Text.DigitLimit) (formula : Formula) (resolver : ρ) (play : Play σ) :
    Prop :=
  ∃ outcome, (formula.evaluateWithin limit resolver play).1 = .ok outcome

/-- The evaluation of a formula is cut short behind the last term of its front `begun`.  Up to
there it is the evaluation of the front, and the front has a number that is too long. -/
structure CutShort (limit : Text.DigitLimit) (formula begun : Formula) (resolver : ρ)
    (play : Play σ) : Prop where
  first : begun.first = formula.first
  steps : begun.steps <+: formula.steps
  tooLong : ∃ number ∈ begun.numbers, ¬ limit.Spells number
  answered : ∃ outcome, (begun.evaluate resolver play).1 = .ok outcome
  result : formula.evaluateWithin limit resolver play =
    (.error .tooManyDigits, (begun.evaluate resolver play).2)

theorem evaluateWithin_eq_goOn (limit : Text.DigitLimit) (first : Term)
    (steps : List (Operator × Term)) (resolver : ρ) (play : Play σ) :
    evaluateWithin limit ⟨first, steps⟩ resolver play =
      Guarded.goOn limit (steps.map Prod.fst) (steps.map Prod.snd)
        (Guarded.announce limit (Guarded.mentioned first)
          (Round.resolve ⟨play, resolver⟩ first)) := by
  rw [← Guarded.resolve_eq]
  rfl

/-- With everything it relies on tested, an evaluation is the one without tests, or it is cut
short at a number that is too long. -/
theorem evaluateWithin_eq_or_cutShort (limit : Text.DigitLimit) (formula : Formula)
    (resolver : ρ) (play : Play σ) :
    formula.evaluateWithin limit resolver play =
        (.ok (formula.evaluate resolver play).1, (formula.evaluate resolver play).2) ∨
      ∃ begun, CutShort limit formula begun resolver play := by
  obtain ⟨first, steps⟩ := formula
  have firstSpelled (spelled : ∀ number ∈ first.numbers, limit.Spells number)
      {outcome : Except EvalError Int} :
      (Round.resolve ⟨play, resolver⟩ first).1 = .ok outcome → Guarded.Spelled limit outcome :=
    Guarded.spelled_of_resolve spelled
  have split := evaluateWithin_eq_goOn limit first steps resolver play
  rw [split]
  rcases resolved : Round.resolve ⟨play, resolver⟩ first with ⟨answer, next⟩
  rw [resolved] at firstSpelled split
  cases answer with
  | error failure =>
      left
      simp only [evaluate, resolved]
      rfl
  | ok soFar =>
      by_cases spelled : ∀ number ∈ Guarded.mentioned first, limit.Spells number
      · rw [Guarded.announce_of_spelled spelled] at split ⊢
        rcases Guarded.foldPairs_eq_or limit steps soFar next with
          same | ⟨before, later, outcome, last, rfl, folded, brokenOff, tooLong⟩
        · left
          simp only [evaluate, resolved]
          exact same
        · right
          have evaluated : evaluate ⟨first, before⟩ resolver play = (.ok outcome, last) := by
            simp only [evaluate, resolved, folded]
          refine ⟨⟨first, before⟩, rfl, List.prefix_append _ _, ?_, ⟨outcome, ?_⟩, ?_⟩
          · by_contra none
            push Not at none
            refine tooLong ⟨firstSpelled (fun number member => none number ?_) rfl,
              fun term termMember number member => none number ?_⟩
            · exact List.mem_flatMap.2 ⟨first, List.mem_cons_self, member⟩
            · exact List.mem_flatMap.2 ⟨term, List.mem_cons_of_mem _ termMember, member⟩
          · rw [evaluated]
          · rw [split, evaluated]
            exact brokenOff
      · right
        rw [Guarded.announce_of_not_spelled spelled] at split
        have evaluated : evaluate ⟨first, []⟩ resolver play = (.ok soFar, next) := by
          simp only [evaluate, resolved, Round.foldSteps]
        refine ⟨⟨first, []⟩, rfl, List.nil_prefix, ?_, ⟨soFar, ?_⟩, ?_⟩
        · by_contra none
          push Not at none
          refine spelled fun number member => none number ?_
          exact List.mem_flatMap.2
            ⟨first, List.mem_cons_self, Guarded.mentioned_subset first member⟩
        · rw [evaluated]
        · rw [split, evaluated]
          rfl

/-- The terms of the front are the first terms of the formula. -/
theorem CutShort.terms_isPrefix {begun : Formula}
    (cutShort : CutShort limit formula begun resolver play) : begun.terms <+: formula.terms := by
  rw [terms, terms, cutShort.first]
  exact List.cons_prefix_cons.2 ⟨rfl, cutShort.steps.map Prod.snd⟩

/-- An evaluation that ends is the one without tests. -/
theorem EndsWithin.evaluateWithin_eq (ends : formula.EndsWithin limit resolver play) :
    formula.evaluateWithin limit resolver play =
      (.ok (formula.evaluate resolver play).1, (formula.evaluate resolver play).2) := by
  refine (evaluateWithin_eq_or_cutShort limit formula resolver play).resolve_right ?_
  rintro ⟨begun, cutShort⟩
  obtain ⟨outcome, same⟩ := ends
  rw [cutShort.result] at same
  cases same

/-- An evaluation that does not end is cut short. -/
theorem exists_cutShort (endless : ¬ formula.EndsWithin limit resolver play) :
    ∃ begun, CutShort limit formula begun resolver play := by
  refine (evaluateWithin_eq_or_cutShort limit formula resolver play).resolve_left fun same => ?_
  exact endless ⟨_, congrArg Prod.fst same⟩

/-- Where all the numbers of a formula can be spelled out, its evaluation ends. -/
theorem endsWithin_of_spelled (spelled : ∀ number ∈ formula.numbers, limit.Spells number)
    (resolver : ρ) (play : Play σ) : formula.EndsWithin limit resolver play := by
  by_contra endless
  obtain ⟨begun, cutShort⟩ := exists_cutShort endless
  obtain ⟨number, member, tooLong⟩ := cutShort.tooLong
  obtain ⟨term, termMember, member⟩ := List.mem_flatMap.1 member
  have inFormula := cutShort.terms_isPrefix.subset termMember
  exact tooLong (spelled number (List.mem_flatMap.2 ⟨term, inFormula, member⟩))

/-- Whether or not it ends, an evaluation leaves the round as some front of the formula
leaves it. -/
theorem exists_front (limit : Text.DigitLimit) (formula : Formula) (resolver : ρ)
    (play : Play σ) :
    ∃ begun : Formula, begun.terms <+: formula.terms ∧
      (formula.evaluateWithin limit resolver play).2 = (begun.evaluate resolver play).2 := by
  rcases evaluateWithin_eq_or_cutShort limit formula resolver play with same | ⟨begun, cutShort⟩
  · exact ⟨formula, List.prefix_rfl, congrArg Prod.snd same⟩
  · exact ⟨begun, cutShort.terms_isPrefix, congrArg Prod.snd cutShort.result⟩

/-- The later steps go on from what the formula up to them comes to. -/
theorem evaluateWithin_append (limit : Text.DigitLimit) (first : Term)
    (before later : List (Operator × Term)) (resolver : ρ) (play : Play σ) :
    evaluateWithin limit ⟨first, before ++ later⟩ resolver play =
      Guarded.goOn limit (later.map Prod.fst) (later.map Prod.snd)
        (evaluateWithin limit ⟨first, before⟩ resolver play) := by
  simp only [evaluateWithin, Guarded.evaluate, Sequence.ofFormula, terms, operators]
  rcases Guarded.resolve limit ⟨play, resolver⟩ first with ⟨breach | failure | outcome, next⟩
  · rfl
  · rfl
  · exact Guarded.foldPairs_append before later outcome next

/-- The numbers of a term read from a text fit into a word. -/
theorem spelled_of_regular (limit : Text.DigitLimit)
    (regular : ∀ term ∈ formula.terms, term.Regular) :
    ∀ number ∈ formula.numbers, limit.Spells number := by
  intro number member
  obtain ⟨term, termMember, member⟩ := List.mem_flatMap.1 member
  have isRegular := regular term termMember
  apply Guarded.spells_of_mem_wordRange
  cases term with
  | identifier name => cases member
  | literal value =>
      obtain rfl := List.mem_singleton.1 member
      exact natCast_mem_wordRange_iff.2 isRegular
  | roll count faces =>
      obtain ⟨countSmall, facesNonneg, facesSmall⟩ := isRegular
      rcases List.mem_cons.1 member with rfl | member
      · exact natCast_mem_wordRange_iff.2 countSmall
      · obtain rfl := List.mem_singleton.1 member
        exact ⟨by omega, facesSmall⟩

end Formula

/-- Nothing that the evaluation of a text relies on fails, whatever the text, the resolver
and the source. -/
theorem Guarded.evaluateText_eq {ρ σ : Type} [Resolver ρ] [RandomSource σ] (text : String)
    (resolver : ρ) (play : Play σ) :
    evaluateText text resolver play = .ok (Formula.evaluateText text resolver play) := by
  have read : parse text.toList = ((Formula.parse text).map .ofFormula).mapError .fault :=
    parse_eq text.toList
  rw [evaluateText, Formula.evaluateText, read]
  cases accepted : Formula.parse text with
  | error fault => rfl
  | ok formula =>
      have regular := Formula.regular_of_parse accepted
      have ends : formula.EndsWithin .standard resolver play :=
        Formula.endsWithin_of_spelled (Formula.spelled_of_regular .standard regular) resolver play
      have evaluated : evaluate .standard (.ofFormula formula) resolver play = _ :=
        ends.evaluateWithin_eq
      simp only [Except.map, Except.mapError, evaluated]

end DiceFormula
