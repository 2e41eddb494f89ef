/-
# Where an evaluation breaks off

Asked for some requests in turn, a source answers them all, or there is a first draw that
it does not answer.  That draw ends an evaluation at once: the requests up to it were made,
the draw among them, and nothing else was.  So on every source an evaluation makes the
requests of its formula or the first few of them, and it draws at all exactly when the
formula has a draw to make.
-/

import DiceFormula.Proofs.Requests

namespace DiceFormula

def Event.isDraw : Event → Bool
  | .lookup _ => false
  | .draw _ _ => true

section Sources

variable {σ τ : Type} [RandomSource σ] [RandomSource τ]

/-- Asked for these requests in turn, a source answers until it comes to a draw that it
does not answer.  The requests made are those up to this draw. -/
inductive Refuses : σ → List Event → (made : List Event) → DrawFailure → σ → Prop
  | lookup {source next : σ} {name : Name} {events made : List Event} {failure : DrawFailure}
      (later : Refuses source events made failure next) :
      Refuses source (.lookup name :: events) (.lookup name :: made) failure next
  | answered {source between next : σ} {low high value : Int} {events made : List Event}
      {failure : DrawFailure} (answer : RandomSource.draw source low high = (.ok value, between))
      (later : Refuses between events made failure next) :
      Refuses source (.draw low high :: events) (.draw low high :: made) failure next
  | refused {source next : σ} {low high : Int} {events : List Event} {failure : DrawFailure}
      (answer : RandomSource.draw source low high = (.error failure, next)) :
      Refuses source (.draw low high :: events) [.draw low high] failure next

/-- The first part is not answered, or it is answered and the second part is not. -/
theorem refuses_append {source next : σ} {first second made : List Event}
    {failure : DrawFailure} (refuses : Refuses source (first ++ second) made failure next) :
    Refuses source first made failure next ∨
      ∃ values between later, Answers source first values between ∧
        Refuses between second later failure next ∧ made = first ++ later := by
  induction first generalizing source made with
  | nil => exact .inr ⟨[], source, made, .nothing, refuses, rfl⟩
  | cons event rest ih =>
      cases refuses with
      | lookup later =>
          rcases ih later with early | ⟨values, between, rest, answers, refuses, rfl⟩
          · exact .inl (.lookup early)
          · exact .inr ⟨values, between, rest, .lookup answers, refuses, rfl⟩
      | answered answer later =>
          rcases ih later with early | ⟨values, between, rest, answers, refuses, rfl⟩
          · exact .inl (.answered answer early)
          · exact .inr ⟨_, between, rest, .draw answer answers, refuses, rfl⟩
      | refused answer => exact .inl (.refused answer)

theorem Refuses.isPrefix {source next : σ} {events made : List Event} {failure : DrawFailure}
    (refuses : Refuses source events made failure next) : made <+: events := by
  induction refuses with
  | lookup later ih => exact List.cons_prefix_cons.2 ⟨rfl, ih⟩
  | answered answer later ih => exact List.cons_prefix_cons.2 ⟨rfl, ih⟩
  | refused answer => exact List.cons_prefix_cons.2 ⟨rfl, List.nil_prefix⟩

/-- The draw that is not answered is among the requests made. -/
theorem Refuses.exists_draw {source next : σ} {events made : List Event} {failure : DrawFailure}
    (refuses : Refuses source events made failure next) :
    ∃ event ∈ made, event.isDraw = true := by
  induction refuses with
  | lookup later ih =>
      obtain ⟨event, member, draws⟩ := ih
      exact ⟨event, List.mem_cons_of_mem _ member, draws⟩
  | answered answer later ih => exact ⟨_, List.mem_cons_self, rfl⟩
  | refused answer => exact ⟨_, List.mem_cons_self, rfl⟩

/-- What a source says to the draws among some requests, in turn, up to the first draw that
it does not answer. -/
def answersTo : σ → List Event → List (Except DrawFailure Int)
  | _, [] => []
  | source, .lookup _ :: rest => answersTo source rest
  | source, .draw low high :: rest =>
    match RandomSource.draw source low high with
    | (.error failure, _) => [.error failure]
    | (.ok value, next) => .ok value :: answersTo next rest

/-- Sources that say the same answer all the requests alike, or they both break off at the
same draw for the same reason. -/
theorem answers_or_refuses_of_answersTo_eq {left : σ} {right : τ} {events : List Event}
    (same : answersTo left events = answersTo right events) :
    (∃ values leftNext rightNext,
      Answers left events values leftNext ∧ Answers right events values rightNext) ∨
    ∃ made failure leftNext rightNext,
      Refuses left events made failure leftNext ∧ Refuses right events made failure rightNext := by
  induction events generalizing left right with
  | nil => exact .inl ⟨[], left, right, .nothing, .nothing⟩
  | cons event rest ih =>
      cases event with
      | lookup name =>
          rcases ih same with ⟨values, leftNext, rightNext, leftAnswers, rightAnswers⟩ |
            ⟨made, failure, leftNext, rightNext, leftRefuses, rightRefuses⟩
          · exact .inl ⟨values, leftNext, rightNext, .lookup leftAnswers, .lookup rightAnswers⟩
          · exact .inr ⟨_, failure, leftNext, rightNext, .lookup leftRefuses, .lookup rightRefuses⟩
      | draw low high =>
          simp only [answersTo] at same
          rcases leftDraw : RandomSource.draw left low high with ⟨leftAnswer, leftNext⟩
          rcases rightDraw : RandomSource.draw right low high with ⟨rightAnswer, rightNext⟩
          rw [leftDraw, rightDraw] at same
          cases leftAnswer with
          | error failure =>
              cases rightAnswer with
              | error other =>
                  obtain rfl : failure = other := by simpa using same
                  exact .inr ⟨_, failure, leftNext, rightNext, .refused leftDraw, .refused rightDraw⟩
              | ok value => simp at same
          | ok value =>
              cases rightAnswer with
              | error failure => simp at same
              | ok other =>
                  simp only [List.cons.injEq, Except.ok.injEq] at same
                  obtain ⟨rfl, same⟩ := same
                  rcases ih same with ⟨values, leftLast, rightLast, leftAnswers, rightAnswers⟩ |
                    ⟨made, failure, leftLast, rightLast, leftRefuses, rightRefuses⟩
                  · exact .inl ⟨_, leftLast, rightLast, .draw leftDraw leftAnswers,
                      .draw rightDraw rightAnswers⟩
                  · exact .inr ⟨_, failure, leftLast, rightLast, .answered leftDraw leftRefuses,
                      .answered rightDraw rightRefuses⟩

/-- A source answers all of some requests or there is a first that it does not answer. -/
theorem answers_or_refuses (source : σ) (events : List Event) :
    (∃ values next, Answers source events values next) ∨
      ∃ made failure next, Refuses source events made failure next := by
  rcases answers_or_refuses_of_answersTo_eq (rfl : answersTo source events = _) with
    ⟨values, next, -, answers, -⟩ | ⟨made, failure, next, -, refuses, -⟩
  · exact .inl ⟨values, next, answers⟩
  · exact .inr ⟨made, failure, next, refuses⟩

end Sources

variable {ρ σ : Type} [Resolver ρ] [RandomSource σ]

theorem Resolver.after_of_prefix_replicate {made : List Event} {count : Nat} {low high : Int}
    (isPrefix : made <+: List.replicate count (.draw low high)) (resolver : ρ) :
    after resolver made = resolver := by
  obtain ⟨-, same⟩ := List.prefix_replicate_iff.1 isPrefix
  rw [same, after_replicate_draw]

theorem Play.drawDice_of_refuses {source next : σ} {count : Nat} {faces : Int}
    {made : List Event} {failure : DrawFailure}
    (refuses : Refuses source (List.replicate count (.draw 1 faces)) made failure next)
    (record : List Event) (total : Int) :
    Play.drawDice faces count total ⟨source, record⟩ =
      (.error failure, ⟨next, made.reverse ++ record⟩) := by
  induction count generalizing source made record total with
  | zero => cases refuses
  | succ count ih =>
      rw [List.replicate_succ] at refuses
      cases refuses with
      | answered answer later => simp [drawDice, draw, answer, ih later]
      | refused answer => simp [drawDice, draw, answer]

namespace Round

/-- A term breaks off at a draw that is not answered. -/
theorem resolve_of_refuses {term : Term} {source next : σ} {made : List Event}
    {failure : DrawFailure} (refuses : Refuses source term.events made failure next)
    (resolver : ρ) (record : List Event) :
    Round.resolve ⟨⟨source, record⟩, resolver⟩ term =
      (.error failure, ⟨⟨next, made.reverse ++ record⟩, Resolver.after resolver made⟩) := by
  cases term with
  | literal value => cases refuses
  | identifier name =>
      cases refuses with
      | lookup later => cases later
  | roll count faces =>
      by_cases faceless : faces < 1
      · rw [Term.events, if_pos faceless] at refuses
        cases refuses
      · rw [Term.events, if_neg faceless] at refuses
        rw [Resolver.after_of_prefix_replicate refuses.isPrefix]
        simp only [resolve, Play.roll, if_neg faceless, Play.drawDice_of_refuses refuses]

/-- The steps break off at a draw that is not answered, whatever was come to before. -/
theorem foldSteps_of_refuses {steps : List (Operator × Term)} {source next : σ}
    {made : List Event} {failure : DrawFailure}
    (refuses : Refuses source ((steps.map Prod.snd).flatMap Term.events) made failure next)
    (resolver : ρ) (record : List Event) (soFar : Except EvalError Int) :
    Round.foldSteps steps soFar ⟨⟨source, record⟩, resolver⟩ =
      (.error failure, ⟨⟨next, made.reverse ++ record⟩, Resolver.after resolver made⟩) := by
  induction steps generalizing resolver source made record soFar with
  | nil => cases refuses
  | cons step steps ih =>
      obtain ⟨op, term⟩ := step
      rw [List.map_cons, List.flatMap_cons] at refuses
      rcases refuses_append refuses with early | ⟨values, between, later, answers, behind, rfl⟩
      · simp only [foldSteps, resolve_of_refuses early]
      · obtain ⟨outcome, resolves⟩ := term.exists_resolves resolver answers
        simp only [foldSteps, resolves.resolve_eq, ih behind, Resolver.after_append,
          List.reverse_append, List.append_assoc]

end Round

namespace Formula

/-- An evaluation breaks off at the first draw that is not answered. -/
theorem evaluate_of_refuses {formula : Formula} {source next : σ} {made : List Event}
    {failure : DrawFailure} (refuses : Refuses source formula.events made failure next)
    (resolver : ρ) (record : List Event) :
    formula.evaluate resolver ⟨source, record⟩ =
      (.error failure, ⟨⟨next, made.reverse ++ record⟩, Resolver.after resolver made⟩) := by
  have split : formula.events =
      formula.first.events ++ (formula.steps.map Prod.snd).flatMap Term.events := rfl
  rw [split] at refuses
  rcases refuses_append refuses with early | ⟨values, between, later, answers, behind, rfl⟩
  · simp only [evaluate, Round.resolve_of_refuses early]
  · obtain ⟨outcome, resolves⟩ := formula.first.exists_resolves resolver answers
    simp only [evaluate, resolves.resolve_eq, Round.foldSteps_of_refuses behind,
      Resolver.after_append, List.reverse_append, List.append_assoc]

/-- On any source an evaluation makes the first requests of its formula, and a draw is among
them if the formula has one. -/
theorem exists_events_evaluate (formula : Formula) (resolver : ρ) (play : Play σ) :
    ∃ made, made <+: formula.events ∧
      (formula.evaluate resolver play).2.events = play.events ++ made ∧
      ((∃ event ∈ formula.events, event.isDraw = true) →
        ∃ event ∈ made, event.isDraw = true) := by
  obtain ⟨source, record⟩ := play
  rcases answers_or_refuses source formula.events with
    ⟨values, next, answers⟩ | ⟨made, failure, next, refuses⟩
  · obtain ⟨outcome, evaluated⟩ := formula.evaluate_round resolver ⟨source, record⟩ answers
    refine ⟨formula.events, List.prefix_rfl, ?_, id⟩
    rw [evaluated]
    simp [Play.events]
  · refine ⟨made, refuses.isPrefix, ?_, fun _ => refuses.exists_draw⟩
    rw [evaluate_of_refuses refuses]
    simp [Play.events]

end Formula

end DiceFormula
