/-
# Sources that answer alike

An evaluation learns nothing about its source but the answers to its requests.  Two
sources are in step when they answer the next request alike and are in step again
afterwards, so whatever is asked for they go on together: evaluations on two sources in
step have the same outcome, ask for the same and leave the sources in step.  Where a
request is not answered it is not answered on either side; the reasons may be different.

A property of a source that no request destroys is the case of a source that is in step
with itself.
-/

import DiceFormula.Evaluation

namespace DiceFormula

/-- Two computations had the same result or both failed, and they ended in related
states. -/
inductive Alike {α β γ : Type} (failures : DrawFailure → DrawFailure → Prop)
    (states : α → β → Prop) :
    Except DrawFailure γ × α → Except DrawFailure γ × β → Prop where
  | answered {left : α} {right : β} (result : γ) (related : states left right) :
      Alike failures states (.ok result, left) (.ok result, right)
  | failed {left : α} {right : β} {failure other : DrawFailure} (same : failures failure other)
      (related : states left right) :
      Alike failures states (.error failure, left) (.error other, right)

/-- Whatever the results are, the states are related. -/
theorem Alike.related {α β γ : Type} {failures : DrawFailure → DrawFailure → Prop}
    {states : α → β → Prop} {left : Except DrawFailure γ × α} {right : Except DrawFailure γ × β}
    (alike : Alike failures states left right) : states left.2 right.2 := by
  cases alike with
  | answered _ related => exact related
  | failed _ related => exact related

/-- Where failures are the same, the results are. -/
theorem alike_eq_iff {α β γ : Type} {states : α → β → Prop} {left : Except DrawFailure γ × α}
    {right : Except DrawFailure γ × β} :
    Alike Eq states left right ↔ left.1 = right.1 ∧ states left.2 right.2 := by
  constructor
  · intro alike
    refine ⟨?_, alike.related⟩
    cases alike with
    | answered => rfl
    | failed same => rw [same]
  · obtain ⟨result, state⟩ := left
    obtain ⟨result', state'⟩ := right
    rintro ⟨rfl, related⟩
    cases result with
    | ok value => exact .answered value related
    | error failure => exact .failed rfl related

/-- Related sources answer every request alike and are related again afterwards. -/
def InStep {σ τ : Type} [RandomSource σ] [RandomSource τ]
    (failures : DrawFailure → DrawFailure → Prop) (states : σ → τ → Prop) : Prop :=
  ∀ ⦃left : σ⦄ ⦃right : τ⦄, states left right → ∀ low high,
    Alike failures states (RandomSource.draw left low high) (RandomSource.draw right low high)

/-- The sources are related and the records are the same. -/
structure PlaysAlike {σ τ : Type} (states : σ → τ → Prop) (left : Play σ) (right : Play τ) :
    Prop where
  source : states left.source right.source
  record : left.record = right.record

/-- The plays are alike and the resolvers are the same. -/
structure RoundsAlike {ρ σ τ : Type} (states : σ → τ → Prop) (left : Round ρ σ)
    (right : Round ρ τ) : Prop where
  plays : PlaysAlike states left.toPlay right.toPlay
  resolver : left.resolver = right.resolver

section

variable {σ τ : Type} [RandomSource σ] [RandomSource τ]
  {failures : DrawFailure → DrawFailure → Prop} {states : σ → τ → Prop}

theorem PlaysAlike.draw (inStep : InStep failures states) {left : Play σ} {right : Play τ}
    (alike : PlaysAlike states left right) (low high : Int) :
    Alike failures (PlaysAlike states) (left.draw low high) (right.draw low high) := by
  obtain ⟨source, record⟩ := left
  obtain ⟨other, record⟩ := right
  obtain ⟨related, rfl⟩ := alike
  have answers := inStep related low high
  simp only [Play.draw]
  generalize RandomSource.draw source low high = result at answers
  generalize RandomSource.draw other low high = result' at answers
  cases answers with
  | answered value related => exact .answered value ⟨related, rfl⟩
  | failed same related => exact .failed same ⟨related, rfl⟩

theorem PlaysAlike.drawDice (inStep : InStep failures states) {left : Play σ} {right : Play τ}
    (alike : PlaysAlike states left right) (faces : Int) (count : Nat) (total : Int) :
    Alike failures (PlaysAlike states) (left.drawDice faces count total)
      (right.drawDice faces count total) := by
  induction count generalizing left right total with
  | zero => exact .answered total alike
  | succ count ih =>
      have first := alike.draw inStep 1 faces
      simp only [Play.drawDice]
      generalize left.draw 1 faces = result at first
      generalize right.draw 1 faces = result' at first
      cases first with
      | answered value alike => exact ih alike (total + value)
      | failed same alike => exact .failed same alike

theorem PlaysAlike.roll (inStep : InStep failures states) {left : Play σ} {right : Play τ}
    (alike : PlaysAlike states left right) (count : Nat) (faces : Int) :
    Alike failures (PlaysAlike states) (left.roll count faces) (right.roll count faces) := by
  by_cases faceless : faces < 1
  · simp only [Play.roll, if_pos faceless]
    exact .answered _ alike
  · have dice := alike.drawDice inStep faces count 0
    simp only [Play.roll, if_neg faceless]
    generalize left.drawDice faces count 0 = result at dice
    generalize right.drawDice faces count 0 = result' at dice
    cases dice with
    | answered total alike => exact .answered _ alike
    | failed same alike => exact .failed same alike

variable {ρ : Type} [Resolver ρ]

theorem RoundsAlike.resolve (inStep : InStep failures states) {left : Round ρ σ}
    {right : Round ρ τ} (alike : RoundsAlike states left right) (term : Term) :
    Alike failures (RoundsAlike states) (left.resolve term) (right.resolve term) := by
  obtain ⟨play, resolver⟩ := left
  obtain ⟨play', resolver⟩ := right
  obtain ⟨plays, rfl⟩ := alike
  cases term with
  | literal value => exact .answered _ ⟨plays, rfl⟩
  | identifier name =>
      refine .answered _ ⟨⟨plays.source, ?_⟩, rfl⟩
      exact congrArg (Event.lookup name :: ·) plays.record
  | roll count faces =>
      have dice := plays.roll inStep count faces
      simp only [Round.resolve] at dice ⊢
      generalize play.roll count faces = result at dice
      generalize play'.roll count faces = result' at dice
      cases dice with
      | answered outcome plays => exact .answered _ ⟨plays, rfl⟩
      | failed same plays => exact .failed same ⟨plays, rfl⟩

theorem RoundsAlike.foldSteps (inStep : InStep failures states) {left : Round ρ σ}
    {right : Round ρ τ} (alike : RoundsAlike states left right) (steps : List (Operator × Term))
    (outcome : Except EvalError Int) :
    Alike failures (RoundsAlike states) (left.foldSteps steps outcome)
      (right.foldSteps steps outcome) := by
  induction steps generalizing left right outcome with
  | nil => exact .answered _ alike
  | cons step steps ih =>
      obtain ⟨op, term⟩ := step
      have operand := alike.resolve inStep term
      simp only [Round.foldSteps]
      generalize left.resolve term = result at operand
      generalize right.resolve term = result' at operand
      cases operand with
      | answered operand alike => exact ih alike _
      | failed same alike => exact .failed same alike

/-- On sources in step an evaluation has the same outcome and asks for the same. -/
theorem Formula.evaluate_alike (inStep : InStep failures states) {left : σ} {right : τ}
    (related : states left right) (formula : Formula) (resolver : ρ) (record : List Event) :
    Alike failures (RoundsAlike states) (formula.evaluate resolver ⟨left, record⟩)
      (formula.evaluate resolver ⟨right, record⟩) := by
  have start : RoundsAlike states (Round.mk ⟨left, record⟩ resolver) ⟨⟨right, record⟩, resolver⟩ :=
    ⟨⟨related, rfl⟩, rfl⟩
  have first := start.resolve inStep formula.first
  simp only [evaluate]
  generalize Round.resolve ⟨⟨left, record⟩, resolver⟩ formula.first = result at first
  generalize Round.resolve ⟨⟨right, record⟩, resolver⟩ formula.first = result' at first
  cases first with
  | answered outcome alike => exact alike.foldSteps inStep _ _
  | failed same alike => exact .failed same alike

end

/-- What no request destroys, no evaluation destroys. -/
theorem Formula.evaluate_preserves {ρ σ : Type} [Resolver ρ] [RandomSource σ] {kept : σ → Prop}
    (keeps : ∀ source low high, kept source → kept (RandomSource.draw source low high).2)
    {source : σ} (holds : kept source) (formula : Formula) (resolver : ρ) (record : List Event) :
    kept (formula.evaluate resolver ⟨source, record⟩).2.source := by
  have inStep : InStep (σ := σ) (τ := σ) Eq fun left right => left = right ∧ kept left := by
    rintro source _ ⟨rfl, holds⟩ low high
    exact alike_eq_iff.2 ⟨rfl, rfl, keeps source low high holds⟩
  have alike := formula.evaluate_alike inStep ⟨rfl, holds⟩ resolver record
  exact alike.related.plays.source.2

end DiceFormula
