/-
# Results stay in range

Nothing wraps around: an operator yields its exact result, and where that does not fit
into a word the evaluation fails for good, whatever the later operators would have made
of it.  So the value of a formula fits into a word.  The one exception is a formula that
is a literal and nothing else, because a literal is only looked at where it is read; a
text has no such literals, so the value of a text always fits.

A result that does not fit is reported together with its operands.  Where the host cannot
spell these out, the evaluation comes to no value either: it is cut short.
-/

import DiceFormula.Proofs.GuardedEvaluation

namespace DiceFormula

/-- The exact result of applying operators from left to right, without any bound on the
size of the integers. -/
def exactFold (first : Int) (steps : List (Operator × Int)) : Option Int :=
  steps.foldlM (fun left step => step.1.exactResult left step.2) first

section Folds

theorem applyExactly_eq_ok_iff {op : Operator} {left right value : Int} :
    applyExactly op left right = .ok value ↔
      op.exactResult left right = some value ∧ value ∈ wordRange := by
  rw [applyExactly]
  cases op.exactResult left right with
  | none => simp
  | some exact =>
      by_cases fits : exact ∈ wordRange
      · simp only [if_pos fits, Except.ok.injEq, Option.some.injEq]
        exact ⟨fun same => ⟨same, same ▸ fits⟩, fun same => same.1⟩
      · simp only [if_neg fits, Option.some.injEq, false_iff, reduceCtorEq]
        rintro ⟨rfl, inRange⟩
        exact fits inRange

theorem applyExactly_of_notMem {op : Operator} {left right exact : Int}
    (result : op.exactResult left right = some exact) (beyond : exact ∉ wordRange) :
    applyExactly op left right = .error (.overflow (.apply op left right)) := by
  simp only [applyExactly, result, if_neg beyond]

/-- A step yields a value only from two values, and the value is exact and fits. -/
theorem foldStep_eq_ok_iff {soFar operand : Except EvalError Int} {op : Operator} {value : Int} :
    foldStep soFar (op, operand) = .ok value ↔
      ∃ left right, soFar = .ok left ∧ operand = .ok right ∧
        op.exactResult left right = some value ∧ value ∈ wordRange := by
  simp only [← applyExactly_eq_ok_iff]
  cases soFar with
  | error failure => simp [foldStep, bind, Except.bind]
  | ok left =>
      cases operand with
      | error failure => simp [foldStep, bind, Except.bind]
      | ok right => simp [foldStep, bind, Except.bind]

/-- A fold with a value folds values, and exactly. -/
theorem exactFold_of_leftFold {operators : List Operator} {first : Except EvalError Int}
    {outcomes : List (Except EvalError Int)} {value : Int}
    (sameLength : outcomes.length = operators.length)
    (folded : leftFold first (operators.zip outcomes) = .ok value) :
    ∃ start values, first = .ok start ∧ outcomes = values.map .ok ∧
      exactFold start (operators.zip values) = some value ∧
      (operators ≠ [] → value ∈ wordRange) := by
  induction operators generalizing first outcomes with
  | nil =>
      obtain rfl := List.eq_nil_of_length_eq_zero sameLength
      exact ⟨value, [], folded, rfl, rfl, fun none => absurd rfl none⟩
  | cons op operators ih =>
      cases outcomes with
      | nil => cases sameLength
      | cons operand outcomes =>
          rw [List.zip_cons_cons, leftFold_cons, ← foldStep_eq_combine] at folded
          obtain ⟨middle, values, stepped, rfl, exact, inRange⟩ :=
            ih (Nat.succ.inj sameLength) folded
          obtain ⟨left, right, rfl, rfl, result, fits⟩ := foldStep_eq_ok_iff.1 stepped
          refine ⟨left, right :: values, rfl, rfl, ?_, fun _ => ?_⟩
          · simpa [exactFold, result] using exact
          · cases operators with
            | nil =>
                obtain rfl : middle = value := by simpa [exactFold] using exact
                exact fits
            | cons => exact inRange (List.cons_ne_nil _ _)

end Folds

variable {ρ σ : Type} [Resolver ρ] [RandomSource σ]

theorem ResolvesAll.length_eq {terms : List Term} {resolver after : ρ} {source last : σ}
    {outcomes : List (Except EvalError Int)}
    (resolves : ResolvesAll terms resolver source outcomes after last) :
    outcomes.length = terms.length := by
  induction resolves with
  | nothing => rfl
  | next resolves rest ih => rw [List.length_cons, List.length_cons, ih]

/-- What a term comes to fits, unless the term is a literal. -/
theorem Resolves.mem_wordRange {term : Term} {resolver after : ρ} {source next : σ} {value : Int}
    (resolves : Resolves term resolver source (.ok value) after next) :
    value ∈ wordRange ∨ ∃ number : Nat, term = .literal number ∧ value = number := by
  cases resolves with
  | literal => exact .inr ⟨_, rfl, rfl⟩
  | known found fits => exact .inl fits
  | rolled hasFaces answers fits => exact .inl fits

namespace Formula

/-- The value of a formula is the exact result of what its terms come to, and it fits if
at least one operator was applied. -/
theorem exists_exactFold {formula : Formula} {resolver : ρ} {play : Play σ} {value : Int}
    (evaluated : (formula.evaluate resolver play).1 = .ok (.ok value)) :
    ∃ first values after last,
      ResolvesAll formula.terms resolver play.source (.ok first :: values.map .ok) after last ∧
      exactFold first (formula.operators.zip values) = some value ∧
      (formula.operators ≠ [] → value ∈ wordRange) := by
  obtain ⟨answers, next, answered⟩ := exists_evaluate_iff.1 ⟨_, evaluated⟩
  obtain ⟨first, rest, resolves⟩ := ResolvesAll.exists_of_formula answered resolver
  have folded : leftFold first (formula.operators.zip rest) = .ok value := by
    have same := congrArg Prod.fst (resolves.evaluate_eq play.record)
    exact Except.ok.inj (same.symm.trans evaluated)
  have sameLength : rest.length = formula.operators.length := by
    have lengths := resolves.length_eq
    rw [length_terms, List.length_cons] at lengths
    exact Nat.succ.inj lengths
  obtain ⟨start, values, rfl, rfl, exact, inRange⟩ := exactFold_of_leftFold sameLength folded
  exact ⟨start, values, _, next, resolves, exact, inRange⟩

/-- The value of a formula fits, unless the formula is nothing but a literal. -/
theorem mem_wordRange_or_literal {formula : Formula} {resolver : ρ} {play : Play σ} {value : Int}
    (evaluated : (formula.evaluate resolver play).1 = .ok (.ok value)) :
    value ∈ wordRange ∨ ∃ number : Nat, formula = ⟨.literal number, []⟩ ∧ value = number := by
  obtain ⟨first, values, after, last, resolves, exact, inRange⟩ := exists_exactFold evaluated
  obtain ⟨term, steps⟩ := formula
  cases steps with
  | cons step steps => exact .inl (inRange (List.cons_ne_nil _ _))
  | nil =>
      obtain rfl : first = value := by simpa [exactFold, operators] using exact
      cases resolves with
      | next resolves rest =>
          rcases resolves.mem_wordRange with fits | ⟨number, rfl, same⟩
          · exact .inl fits
          · exact .inr ⟨number, rfl, same⟩

/-- The value of a text fits, because the numbers in a text do. -/
theorem evaluateText_mem_wordRange {text : String} {resolver : ρ} {play : Play σ} {value : Int}
    (evaluated : (evaluateText text resolver play).1 = .ok (.ok (.ok value))) :
    value ∈ wordRange := by
  rw [evaluateText] at evaluated
  cases accepted : parse text with
  | error fault =>
      rw [accepted] at evaluated
      cases evaluated
  | ok formula =>
      rw [accepted] at evaluated
      have outcome : (formula.evaluate resolver play).1 = .ok (.ok value) :=
        Except.ok.inj evaluated
      rcases mem_wordRange_or_literal outcome with fits | ⟨number, rfl, rfl⟩
      · exact fits
      · exact natCast_mem_wordRange_iff.2
          (regular_of_parse accepted (.literal number) (List.mem_singleton_self _))

variable {limit : Text.DigitLimit}

/-- An evaluation with these steps left ends with this failure if the source answers all
their draws and breaks off at a draw otherwise, unless it is cut short at a number in one of
the steps. -/
def EndsWith (limit : Text.DigitLimit) (error : EvalError) (source : σ)
    (later : List (Operator × Term))
    (result : Except Breach (Except DrawFailure (Except EvalError Int))) : Prop :=
  let terms := later.map Prod.snd
  let answered := ∃ values last, Answers source (terms.flatMap Term.events) values last
  (answered ∧ result = .ok (.ok (.error error))) ∨
    (¬ answered ∧ ∃ failure, result = .ok (.error failure)) ∨
    (¬ (∀ term ∈ terms, ∀ number ∈ term.numbers, limit.Spells number) ∧
      result = .error .tooManyDigits)

/-- From a failure on, an evaluation can only end with it. -/
theorem endsWith_of_error {first : Term} {before : List (Operator × Term)} {resolver : ρ}
    {play : Play σ} {error : EvalError} {round : Round ρ σ}
    (failed : evaluateWithin limit ⟨first, before⟩ resolver play =
      (.ok (.ok (.error error)), round))
    (later : List (Operator × Term)) :
    EndsWith limit error round.source later
      (evaluateWithin limit ⟨first, before ++ later⟩ resolver play).1 := by
  rw [evaluateWithin_append, failed, Guarded.goOn]
  rcases Guarded.foldPairs_eq_or limit later (.error error) round with
    same | ⟨steps, rest, outcome, next, rfl, -, cut, tooLong⟩
  · have answered_iff : (∃ outcome, (round.foldSteps later (.error error)).1 = .ok outcome) ↔ _ :=
      Round.exists_foldSteps_iff
    rw [same, EndsWith, ← answered_iff]
    rcases Round.foldSteps_error later error round with kept | ⟨failure, brokenOff⟩
    · exact .inl ⟨⟨_, kept⟩, congrArg Except.ok kept⟩
    · refine .inr (.inl ⟨fun ⟨outcome, same⟩ => ?_, failure, congrArg Except.ok brokenOff⟩)
      rw [brokenOff] at same
      cases same
  · rw [cut]
    refine .inr (.inr ⟨fun spelled => tooLong ⟨Guarded.spelled_error error, ?_⟩, rfl⟩)
    intro term member
    rw [List.map_append] at spelled
    exact spelled term (List.mem_append_left _ member)

section Steps

variable {first : Term} {before : List (Operator × Term)} {op : Operator} {term : Term}
  {resolver : ρ} {play : Play σ} {left right exact : Int} {round next : Round ρ σ}

/-- A step whose operands are too long to be spelled out cuts the evaluation short. -/
theorem evaluateWithin_of_tooLong
    (evaluated : evaluateWithin limit ⟨first, before⟩ resolver play = (.ok (.ok (.ok left)), round))
    (resolved : Guarded.resolve limit round term = (.ok (.ok (.ok right)), next))
    (tooLong : ¬ (limit.Spells left ∧ limit.Spells right)) (rest : List (Operator × Term)) :
    evaluateWithin limit ⟨first, before ++ (op, term) :: rest⟩ resolver play =
      (.error .tooManyDigits, next) := by
  rw [evaluateWithin_append, evaluated, Guarded.goOn]
  simp only [List.map_cons, Guarded.foldPairs, resolved, Guarded.combine, Guarded.apply_eq,
    if_neg tooLong]

/-- A step whose exact result does not fit makes the formula up to it fail. -/
theorem evaluateWithin_of_notMem
    (evaluated : evaluateWithin limit ⟨first, before⟩ resolver play = (.ok (.ok (.ok left)), round))
    (resolved : Guarded.resolve limit round term = (.ok (.ok (.ok right)), next))
    (spelled : limit.Spells left ∧ limit.Spells right)
    (result : op.exactResult left right = some exact) (beyond : exact ∉ wordRange) :
    evaluateWithin limit ⟨first, before ++ [(op, term)]⟩ resolver play =
      (.ok (.ok (.error (.overflow (.apply op left right)))), next) := by
  rw [evaluateWithin_append, evaluated, Guarded.goOn]
  simp only [List.map_cons, List.map_nil, Guarded.foldPairs, resolved, Guarded.combine,
    Guarded.apply_eq, if_pos spelled, apply_eq_applyExactly, applyExactly_of_notMem result beyond]

end Steps

/-- The greatest value plus one fails, although one is taken away again. -/
example :
    (evaluateWithin .standard
      ⟨.literal 9223372036854775807, [(.add, .literal 1), (.sub, .literal 1)]⟩
      (fun _ => none : String → Option Int) (.start (FixedSource.start 1))).1 =
        .ok (.ok (.error (.overflow (.apply .add 9223372036854775807 1)))) := by
  rfl

end Formula

end DiceFormula
