/-
# Evaluations whose draws are answered

An evaluation breaks off at the first draw that is not answered and at nothing else.  So
it has an outcome exactly when the source answers all the draws of the formula in turn.
A failure that it has come to after some steps is kept.

Only dice with faces are drawn.  So a source that answers whenever there is something to
draw answers all the draws of every formula.
-/

import DiceFormula.Proofs.TwoPhases

namespace DiceFormula

variable {ρ σ : Type} [Resolver ρ] [RandomSource σ]

/-- Dice that add up to something were all answered. -/
theorem Play.answers_of_drawDice {count : Nat} {faces total sum : Int} {play next : Play σ}
    (drawn : play.drawDice faces count total = (.ok sum, next)) :
    ∃ values, Answers play.source (List.replicate count (.draw 1 faces)) values next.source := by
  induction count generalizing play total with
  | zero =>
      obtain ⟨-, rfl⟩ := Prod.mk.inj drawn
      exact ⟨[], .nothing⟩
  | succ count ih =>
      obtain ⟨source, record⟩ := play
      simp only [drawDice, draw] at drawn
      rcases answered : RandomSource.draw source 1 faces with ⟨answer, between⟩
      rw [answered] at drawn
      cases answer with
      | error failure => cases drawn
      | ok value =>
          obtain ⟨values, answers⟩ := ih drawn
          exact ⟨value :: values, .draw answered answers⟩

/-- A term that comes to something made its requests and was answered. -/
theorem Round.answers_of_resolve {term : Term} {round next : Round ρ σ}
    {outcome : Except EvalError Int} (resolved : round.resolve term = (.ok outcome, next)) :
    ∃ values, Answers round.source term.events values next.source := by
  obtain ⟨play, resolver⟩ := round
  cases term with
  | literal value =>
      obtain ⟨-, rfl⟩ := Prod.mk.inj resolved
      exact ⟨[], .nothing⟩
  | identifier name =>
      obtain ⟨-, rfl⟩ := Prod.mk.inj resolved
      exact ⟨[], .lookup .nothing⟩
  | roll count faces =>
      by_cases faceless : faces < 1
      · simp only [resolve, Play.roll, if_pos faceless] at resolved
        obtain ⟨-, rfl⟩ := Prod.mk.inj resolved
        rw [Term.events, if_pos faceless]
        exact ⟨[], .nothing⟩
      · simp only [resolve, Play.roll, if_neg faceless] at resolved
        rw [Term.events, if_neg faceless]
        rcases drawn : play.drawDice faces count 0 with ⟨sum, between⟩
        rw [drawn] at resolved
        cases sum with
        | error failure => cases resolved
        | ok sum =>
            obtain ⟨-, rfl⟩ := Prod.mk.inj resolved
            exact Play.answers_of_drawDice drawn

namespace Round

/-- The steps come to something if and only if all their draws are answered. -/
theorem exists_foldSteps_iff {steps : List (Operator × Term)} {round : Round ρ σ}
    {soFar : Except EvalError Int} :
    (∃ outcome, (round.foldSteps steps soFar).1 = .ok outcome) ↔
      ∃ values next, Answers round.source ((steps.map Prod.snd).flatMap Term.events) values next := by
  constructor
  · rintro ⟨outcome, folded⟩
    induction steps generalizing round soFar with
    | nil => exact ⟨[], _, .nothing⟩
    | cons step steps ih =>
        obtain ⟨op, term⟩ := step
        simp only [foldSteps] at folded
        rcases resolved : round.resolve term with ⟨operand, between⟩
        rw [resolved] at folded
        cases operand with
        | error failure => cases folded
        | ok operand =>
            obtain ⟨values, answers⟩ := answers_of_resolve resolved
            obtain ⟨others, next, rest⟩ := ih folded
            exact ⟨_, next, answers_append_iff.2 ⟨_, _, _, rfl, answers, rest⟩⟩
  · rintro ⟨values, next, answers⟩
    obtain ⟨⟨source, record⟩, resolver⟩ := round
    obtain ⟨outcomes, resolves⟩ := ResolvesAll.exists_outcomes answers resolver
    rw [resolves.foldSteps_eq]
    exact ⟨_, rfl⟩

/-- A failure so far is the outcome, unless a draw is not answered. -/
theorem foldSteps_error (steps : List (Operator × Term)) (error : EvalError) (round : Round ρ σ) :
    (round.foldSteps steps (.error error)).1 = .ok (.error error) ∨
      ∃ failure, (round.foldSteps steps (.error error)).1 = .error failure := by
  induction steps generalizing round with
  | nil => exact .inl rfl
  | cons step rest ih =>
      obtain ⟨op, term⟩ := step
      simp only [foldSteps]
      rcases round.resolve term with ⟨operand, next⟩
      cases operand with
      | error failure => exact .inr ⟨failure, rfl⟩
      | ok operand => exact ih next

end Round

/-- No draw among these requests is from an empty range. -/
def NonemptyRanges (events : List Event) : Prop :=
  ∀ low high, Event.draw low high ∈ events → low ≤ high

/-- Whatever a source is asked in turn, it answers as long as there is something to draw. -/
def AnswersRanges (source : σ) : Prop :=
  ∀ events, NonemptyRanges events → ∃ values next, Answers source events values next

/-- A source answers in turn what it answers one at a time. -/
theorem answersRanges_of_draw
    (total : ∀ (source : σ) low high, low ≤ high →
      ∃ value next, RandomSource.draw source low high = (.ok value, next))
    (source : σ) : AnswersRanges source := by
  intro events nonempty
  induction events generalizing source with
  | nil => exact ⟨[], source, .nothing⟩
  | cons event rest ih =>
      have later : NonemptyRanges rest := fun low high member =>
        nonempty low high (List.mem_cons_of_mem _ member)
      cases event with
      | lookup name =>
          obtain ⟨values, next, answers⟩ := ih source later
          exact ⟨values, next, .lookup answers⟩
      | draw low high =>
          obtain ⟨value, between, answer⟩ :=
            total source low high (nonempty low high List.mem_cons_self)
          obtain ⟨values, next, answers⟩ := ih between later
          exact ⟨value :: values, next, .draw answer answers⟩

namespace Formula

/-- Only dice with faces are drawn. -/
theorem nonemptyRanges_events (formula : Formula) : NonemptyRanges formula.events := by
  intro low high asked
  obtain ⟨term, -, asked⟩ := List.mem_flatMap.1 asked
  cases term with
  | literal value => cases asked
  | identifier name => cases List.mem_singleton.1 asked
  | roll count faces =>
      by_cases faceless : faces < 1
      · rw [Term.events, if_pos faceless] at asked
        cases asked
      · rw [Term.events, if_neg faceless] at asked
        cases List.eq_of_mem_replicate asked
        exact Int.not_lt.1 faceless

/-- An evaluation comes to something if and only if all its draws are answered. -/
theorem exists_evaluate_iff {formula : Formula} {resolver : ρ} {play : Play σ} :
    (∃ outcome, (formula.evaluate resolver play).1 = .ok outcome) ↔
      ∃ values next, Answers play.source formula.events values next := by
  constructor
  · rintro ⟨outcome, evaluated⟩
    simp only [evaluate] at evaluated
    rcases resolved : Round.resolve ⟨play, resolver⟩ formula.first with ⟨first, between⟩
    rw [resolved] at evaluated
    cases first with
    | error failure => cases evaluated
    | ok first =>
        obtain ⟨values, answers⟩ := Round.answers_of_resolve resolved
        obtain ⟨others, next, rest⟩ := Round.exists_foldSteps_iff.1 ⟨outcome, evaluated⟩
        exact ⟨_, next, answers_append_iff.2 ⟨_, _, _, rfl, answers, rest⟩⟩
  · rintro ⟨values, next, answers⟩
    obtain ⟨first, rest, resolves⟩ := ResolvesAll.exists_of_formula answers resolver
    exact ⟨_, congrArg Prod.fst (resolves.evaluate_eq play.record)⟩

end Formula

end DiceFormula
