/-
# Runs on one source

A source is shared by whatever comes to it: evaluations of any formulas with resolvers of
their own, and requests made directly.  A run takes such steps one after the other, each
from the state in which the step before it left the source.

What a source was asked during a run can be read off a watched source, which answers like
the source it watches and writes down every request together with the answer.  Watching
changes nothing about a run.
-/

import DiceFormula.Proofs.Simulation

namespace DiceFormula

/-- Something that is done with a source. -/
inductive SharedStep : Type 1 where
  | evaluate {ρ : Type} [Resolver ρ] (formula : Formula) (resolver : ρ)
  | draw (low high : Int)

/-- What a step comes to. -/
inductive StepOutcome where
  | evaluated (outcome : Except DrawFailure (Except EvalError Int))
  | drawn (answer : Except DrawFailure Int)

namespace SharedStep

variable {σ : Type} [RandomSource σ]

def take (source : σ) : SharedStep → StepOutcome × σ
  | evaluate formula resolver =>
    match formula.evaluate resolver (.start source) with
    | (outcome, round) => (.evaluated outcome, round.source)
  | draw low high =>
    match RandomSource.draw source low high with
    | (answer, next) => (.drawn answer, next)

/-- Takes steps in turn: what each of them comes to, and the source afterwards. -/
def takeAll (source : σ) : List SharedStep → List StepOutcome × σ
  | [] => ([], source)
  | step :: rest =>
    match step.take source with
    | (outcome, next) =>
      match takeAll next rest with
      | (outcomes, last) => (outcome :: outcomes, last)

theorem takeAll_append (source : σ) (first second : List SharedStep) :
    takeAll source (first ++ second) =
      ((takeAll source first).1 ++ (takeAll (takeAll source first).2 second).1,
        (takeAll (takeAll source first).2 second).2) := by
  induction first generalizing source with
  | nil => rfl
  | cons step rest ih => simp [takeAll, ih]

theorem length_takeAll (source : σ) (steps : List SharedStep) :
    (takeAll source steps).1.length = steps.length := by
  induction steps generalizing source with
  | nil => rfl
  | cons step rest ih => simp [takeAll, ih]

section Alike

variable {τ : Type} [RandomSource τ] {states : σ → τ → Prop} {left : σ} {right : τ}

/-- On sources in step a step comes to the same. -/
theorem take_alike (inStep : InStep Eq states) (related : states left right)
    (step : SharedStep) :
    (step.take left).1 = (step.take right).1 ∧ states (step.take left).2 (step.take right).2 := by
  cases step with
  | evaluate formula resolver =>
      obtain ⟨same, rounds⟩ :=
        alike_eq_iff.1 (formula.evaluate_alike inStep related resolver [])
      exact ⟨congrArg StepOutcome.evaluated same, rounds.plays.source⟩
  | draw low high =>
      obtain ⟨same, related⟩ := alike_eq_iff.1 (inStep related low high)
      exact ⟨congrArg StepOutcome.drawn same, related⟩

theorem takeAll_alike (inStep : InStep Eq states) (related : states left right)
    (steps : List SharedStep) :
    (takeAll left steps).1 = (takeAll right steps).1 ∧
      states (takeAll left steps).2 (takeAll right steps).2 := by
  induction steps generalizing left right with
  | nil => exact ⟨rfl, related⟩
  | cons step rest ih =>
      obtain ⟨sameOutcome, related⟩ := take_alike inStep related step
      obtain ⟨sameOutcomes, last⟩ := ih related
      exact ⟨by simp only [takeAll, sameOutcome, sameOutcomes], last⟩

end Alike

/-- What no request destroys, no run destroys. -/
theorem takeAll_preserves (kept : σ → Prop)
    (keeps : ∀ source low high, kept source → kept (RandomSource.draw source low high).2)
    {source : σ} (holds : kept source) (steps : List SharedStep) :
    kept (takeAll source steps).2 := by
  induction steps generalizing source with
  | nil => exact holds
  | cons step rest ih =>
      refine ih ?_
      cases step with
      | evaluate formula resolver => exact formula.evaluate_preserves keeps holds resolver []
      | draw low high => exact keeps source low high holds

end SharedStep

/-- A request with its answer and the source as it was then. -/
structure DrawRequest (σ : Type) where
  low : Int
  high : Int
  answer : Except DrawFailure Int
  after : σ

/-- The bounds of a request and the value it was answered with, if it was answered. -/
def DrawRequest.granted? {σ : Type} (request : DrawRequest σ) : Option ((Int × Int) × Int) :=
  match request.answer with
  | .ok value => some ((request.low, request.high), value)
  | .error _ => none

/-- A source and all the requests made to it since it is watched. -/
structure Watched (σ : Type) where
  source : σ
  requests : List (DrawRequest σ)

namespace Watched

variable {σ : Type} [RandomSource σ]

def start (source : σ) : Watched σ :=
  ⟨source, []⟩

/-- The requests that were answered. -/
def granted (watched : Watched σ) : List ((Int × Int) × Int) :=
  watched.requests.filterMap DrawRequest.granted?

def draw (watched : Watched σ) (low high : Int) : Except DrawFailure Int × Watched σ :=
  match RandomSource.draw watched.source low high with
  | (answer, next) => (answer, ⟨next, watched.requests ++ [⟨low, high, answer, next⟩]⟩)

instance : RandomSource (Watched σ) := ⟨draw⟩

/-- A watched source answers like the source. -/
theorem inStep :
    InStep (σ := Watched σ) (τ := σ) Eq fun watched source => watched.source = source := by
  rintro watched _ rfl low high
  exact alike_eq_iff.2 ⟨rfl, rfl⟩

/-- Watching changes nothing about a run. -/
theorem takeAll_start (source : σ) (steps : List SharedStep) :
    SharedStep.takeAll source steps =
      ((SharedStep.takeAll (start source) steps).1,
        (SharedStep.takeAll (start source) steps).2.source) := by
  have related : (start source).source = source := rfl
  obtain ⟨sameOutcomes, sameSource⟩ := SharedStep.takeAll_alike inStep related steps
  rw [sameOutcomes, sameSource]

end Watched

end DiceFormula
