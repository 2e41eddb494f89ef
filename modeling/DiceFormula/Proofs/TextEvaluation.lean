/-
# How the evaluation of a text ends

A formula that was read from a text has numbers that fit into a word, so nothing that its
evaluation relies on ever fails, whatever the resolver and the source say.  On a source that
answers whenever there is something to draw, evaluating a text therefore ends with a value,
with a fault of the text or with one of the four failures of evaluation.
-/

import DiceFormula.Dice.Seeded
import DiceFormula.Proofs.GuardedEvaluation
import DiceFormula.Proofs.Requests
import DiceFormula.Variables

namespace DiceFormula

/-- Seeded dice answer as long as there is something to draw. -/
theorem SeededSource.answersRanges (source : SeededSource) : AnswersRanges source := by
  refine answersRanges_of_draw (fun source low high ordered => ?_) source
  have nonempty : ¬ high < low := Int.not_lt.2 ordered
  simp only [RandomSource.draw, SeededSource.draw, if_neg nonempty]
  exact ⟨_, _, rfl⟩

namespace Formula

variable {ρ σ : Type} [Resolver ρ] [RandomSource σ]

theorem evaluateText_of_fault {text : String} {fault : SyntaxFault}
    (rejected : parse text = .error fault) (resolver : ρ) (play : Play σ) :
    evaluateText text resolver play = (.error fault, ⟨play, resolver⟩) := by
  simp only [evaluateText, rejected]

theorem evaluateText_of_formula {text : String} {formula : Formula}
    (accepted : parse text = .ok formula) (resolver : ρ) (play : Play σ) :
    evaluateText text resolver play =
      (.ok (formula.evaluate resolver play).1, (formula.evaluate resolver play).2) := by
  simp only [evaluateText, accepted]

/-- Whatever the text, the resolver and the source, as long as the source answers when there
is something to draw, the evaluation of the text ends with a fault of the text, with a value
or with one of the four failures of evaluation.  It ends with a fault exactly if reading
does, and then nothing has been asked.  Nothing that it relies on fails on the way, and no
draw is from an empty range. -/
theorem evaluateText_ends (text : String) (resolver : ρ) (source : σ)
    (answering : AnswersRanges source) :
    ∃ result round,
      evaluateText text resolver (.start source) = (result, round) ∧
      Guarded.evaluateText text resolver (.start source) = .ok (result, round) ∧
      (∀ fault, result = .error fault ↔ parse text = .error fault) ∧
      (∀ fault, result = .error fault → round = ⟨.start source, resolver⟩) ∧
      ((∃ fault, result = .error fault) ∨ (∃ value, result = .ok (.ok (.ok value))) ∨
        ∃ failure : EvalError, result = .ok (.ok (.error failure))) ∧
      NonemptyRanges round.events := by
  have guarded := Guarded.evaluateText_eq text resolver (.start source)
  cases read : parse text with
  | error fault =>
      rw [evaluateText_of_fault read] at guarded ⊢
      refine ⟨_, _, rfl, guarded, fun other => ?_, fun _ _ => rfl, .inl ⟨fault, rfl⟩, ?_⟩
      · simp
      · intro low high asked
        cases asked
  | ok formula =>
      obtain ⟨values, next, answers⟩ := answering formula.events formula.nonemptyRanges_events
      obtain ⟨outcome, evaluated⟩ := formula.evaluate_round resolver (.start source) answers
      rw [evaluateText_of_formula read, evaluated] at guarded ⊢
      refine ⟨_, _, rfl, guarded, fun fault => by simp, ?_, .inr ?_, ?_⟩
      · intro fault isFault
        cases isFault
      · cases outcome with
        | ok value => exact .inl ⟨value, rfl⟩
        | error failure => exact .inr ⟨failure, rfl⟩
      · simpa [Play.events, Play.start] using formula.nonemptyRanges_events

/-- Two dice are divided by a name that has no value in one table and a value in a chain
behind it. -/
theorem evaluateText_ends_seededDice :
    let tree := Variables.chain
      [.layer (Table.empty.set "x" none), .chain [.layer (Table.empty.set "x" (some 0))]]
    let source := SeededSource.start 7
    AnswersRanges source ∧ ∃ result round,
      Guarded.evaluateText "2d6 / x" tree.resolve (.start source) = .ok (result, round) ∧
      ((∃ fault, result = .error fault) ∨ (∃ value, result = .ok (.ok (.ok value))) ∨
        ∃ failure : EvalError, result = .ok (.ok (.error failure))) ∧
      NonemptyRanges round.events := by
  intro tree source
  obtain ⟨result, round, -, guarded, -, -, ends, nonempty⟩ :=
    evaluateText_ends "2d6 / x" tree.resolve source source.answersRanges
  exact ⟨source.answersRanges, result, round, guarded, ends, nonempty⟩

end Formula

end DiceFormula
