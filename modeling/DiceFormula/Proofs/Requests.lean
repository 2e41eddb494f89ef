/-
# The requests of an evaluation

What an evaluation asks for can be told from the formula: the requests of its terms, in
order, whatever the terms come to.  Two formulas evaluated one after the other therefore
make the same requests as the two joined by an operator, and leave the source in the
same state.

The one thing that keeps an evaluation from making all its requests, apart from a draw that
is not answered, is a number of the formula that is too long for the host.
-/

import DiceFormula.Proofs.GuardedEvaluation

namespace DiceFormula.Formula

variable {ρ σ : Type} [Resolver ρ] [RandomSource σ]

/-- As long as the source answers, an evaluation has an outcome and makes all the
requests of the formula. -/
theorem evaluate_round (formula : Formula) (resolver : ρ) (play : Play σ) {values : List Int}
    {next : σ} (answered : Answers play.source formula.events values next) :
    ∃ outcome, formula.evaluate resolver play =
      (.ok outcome, ⟨⟨next, formula.events.reverse ++ play.record⟩,
        Resolver.after resolver formula.events⟩) := by
  obtain ⟨first, rest, resolves⟩ := ResolvesAll.exists_of_formula answered resolver
  exact ⟨_, resolves.evaluate_eq play.record⟩

/-- A joined formula makes the requests of its two parts. -/
theorem events_join (left : Formula) (op : Operator) (right : Formula) :
    (left.join op right).events = left.events ++ right.events := by
  rw [events, terms_join, List.flatMap_append]
  rfl

/-- Joined by an operator, two formulas make their requests one after the other. -/
theorem evaluate_join_round (left : Formula) (op : Operator) (right : Formula) (resolver : ρ)
    (play : Play σ) {leftValues rightValues : List Int} {between last : σ}
    (leftAnswered : Answers play.source left.events leftValues between)
    (rightAnswered : Answers between right.events rightValues last) :
    ∃ outcome, (left.join op right).evaluate resolver play =
      (.ok outcome,
        ⟨⟨last, right.events.reverse ++ (left.events.reverse ++ play.record)⟩,
          Resolver.after (Resolver.after resolver left.events) right.events⟩) := by
  have answered :
      Answers play.source (left.join op right).events (leftValues ++ rightValues) last := by
    rw [events_join]
    exact answers_append_iff.2 ⟨_, _, between, rfl, leftAnswered, rightAnswered⟩
  obtain ⟨outcome, evaluated⟩ := (left.join op right).evaluate_round resolver play answered
  refine ⟨outcome, ?_⟩
  rw [evaluated, events_join, List.reverse_append, List.append_assoc, Resolver.after_append]

/-- An evaluation that has an outcome has made all the requests of the formula. -/
theorem events_of_outcome {formula : Formula} {resolver : ρ} {play : Play σ}
    {outcome : Except EvalError Int}
    (hasOutcome : (formula.evaluate resolver play).1 = .ok outcome) :
    (formula.evaluate resolver play).2.events =
      play.events ++ formula.terms.flatMap Term.events := by
  obtain ⟨values, next, answered⟩ := exists_evaluate_iff.1 ⟨outcome, hasOutcome⟩
  obtain ⟨_, evaluated⟩ := formula.evaluate_round resolver play answered
  rw [evaluated]
  simp [Play.events, events]

/-- Up to where it is cut short, an evaluation has made the requests of the terms. -/
theorem CutShort.events_eq {limit : Text.DigitLimit} {formula begun : Formula} {resolver : ρ}
    {play : Play σ} (cutShort : CutShort limit formula begun resolver play) :
    (formula.evaluateWithin limit resolver play).2.events =
      play.events ++ begun.terms.flatMap Term.events := by
  obtain ⟨outcome, hasOutcome⟩ := cutShort.answered
  rw [cutShort.result]
  exact events_of_outcome hasOutcome

end DiceFormula.Formula
