/-
# What an evaluation depends on

An evaluation learns about its surroundings only what it asks for.  So two evaluations of a
formula come to the same and ask for the same as soon as the resolvers agree on the names
that the formula mentions and the sources say the same to its draws, whatever else they
know and whether or not they answer.  A formula without rolls leaves every source alone.
-/

import DiceFormula.Proofs.BreakingOff
import DiceFormula.Proofs.FirstAppearances
import DiceFormula.Variables

namespace DiceFormula

/-- Looking up any name leaves this resolver as it is. -/
def Resolver.Stateless {ρ : Type} [Resolver ρ] (resolver : ρ) : Prop :=
  ∀ name, (lookUp resolver name).2 = resolver

theorem Resolver.Stateless.lookUp_eq {ρ : Type} [Resolver ρ] {resolver : ρ}
    (stateless : Stateless resolver) {name : String} {found : Option Int}
    (answer : (lookUp resolver name).1 = found) : lookUp resolver name = (found, resolver) :=
  Prod.ext answer (stateless name)

section Draws

variable {σ : Type} [RandomSource σ]

/-- There is one answer to each draw. -/
theorem Answers.length_eq {source next : σ} {events : List Event} {values : List Int}
    (answers : Answers source events values next) :
    values.length = events.countP Event.isDraw := by
  induction answers with
  | nothing => rfl
  | lookup rest ih => rw [ih, List.countP_cons_of_neg (by simp [Event.isDraw])]
  | draw answer rest ih =>
      rw [List.length_cons, ih, List.countP_cons_of_pos (by rfl)]

theorem Answers.answersTo_eq {source next : σ} {events : List Event} {values : List Int}
    (answers : Answers source events values next) :
    answersTo source events = values.map .ok := by
  induction answers with
  | nothing => rfl
  | lookup rest ih => exact ih
  | draw answer rest ih => simp only [answersTo, answer, ih, List.map_cons]

/-- Behind answered requests a source goes on from where they lead to. -/
theorem Answers.answersTo_append {source next : σ} {first : List Event} {values : List Int}
    (answers : Answers source first values next) (second : List Event) :
    answersTo source (first ++ second) = values.map .ok ++ answersTo next second := by
  induction answers with
  | nothing => rfl
  | lookup rest ih => exact ih
  | draw answer rest ih =>
      simp only [List.cons_append, answersTo, answer, ih, List.map_cons]

/-- What a source says to some requests does not depend on those behind them. -/
theorem answersTo_eq_take (source : σ) (first second : List Event) :
    answersTo source first =
      (answersTo source (first ++ second)).take (first.countP Event.isDraw) := by
  induction first generalizing source with
  | nil => rfl
  | cons event rest ih =>
      cases event with
      | lookup name =>
          rw [List.countP_cons_of_neg (by simp [Event.isDraw])]
          exact ih source
      | draw low high =>
          rw [List.countP_cons_of_pos (by rfl), List.cons_append]
          simp only [answersTo]
          rcases RandomSource.draw source low high with ⟨failure | value, next⟩
          · rw [List.take_succ_cons, List.take_nil]
          · exact congrArg (Except.ok value :: ·) (ih next)

/-- Requests without a draw are answered by every source and leave it as it is. -/
theorem answers_of_noDraw {events : List Event} (noDraw : ∀ event ∈ events, event.isDraw = false)
    (source : σ) : Answers source events [] source := by
  induction events with
  | nil => exact .nothing
  | cons event rest ih =>
      obtain ⟨here, later⟩ := List.forall_mem_cons.1 noDraw
      cases event with
      | lookup name => exact .lookup (ih later)
      | draw low high => cases here

end Draws

/-- A term asks for no draw if and only if it is not a roll of at least one die with faces. -/
theorem Term.noDraw_iff {term : Term} :
    (∀ event ∈ term.events, event.isDraw = false) ↔
      ∀ count faces, term = .roll count faces → count = 0 ∨ faces < 1 := by
  cases term with
  | literal value => simp [events]
  | identifier name => simp [events, Event.isDraw]
  | roll count faces =>
      by_cases faceless : faces < 1
      · simp [events, faceless]
      · simp [events, faceless, Event.isDraw]

/-- A formula asks for no draw if and only if all its rolls have no dice or no faces. -/
theorem Formula.noDraw_iff {formula : Formula} :
    (∀ event ∈ formula.events, event.isDraw = false) ↔
      ∀ count faces, Term.roll count faces ∈ formula.rolls → count = 0 ∨ faces < 1 := by
  have rolls : ∀ count faces,
      Term.roll count faces ∈ formula.rolls ↔ Term.roll count faces ∈ formula.terms := by
    intro count faces
    simp [Formula.rolls, Term.isRoll]
  simp only [rolls]
  constructor
  · intro noDraw count faces member
    refine Term.noDraw_iff.1 (fun event asked => ?_) count faces rfl
    exact noDraw event (List.mem_flatMap.2 ⟨_, member, asked⟩)
  · intro noDice event asked
    obtain ⟨term, member, asked⟩ := List.mem_flatMap.1 asked
    refine Term.noDraw_iff.2 (fun count faces same => ?_) event asked
    exact noDice count faces (same ▸ member)

/-- A deterministic formula has no rolls. -/
theorem Formula.noDraw_of_isDeterministic {formula : Formula}
    (deterministic : formula.isDeterministic = true) :
    ∀ event ∈ formula.events, event.isDraw = false := by
  have none : formula.rolls = [] := List.isEmpty_iff.1 deterministic
  refine noDraw_iff.2 fun count faces member => ?_
  rw [none] at member
  cases member

section TwoRuns

variable {ρ ρ' σ τ : Type} [Resolver ρ] [Resolver ρ'] [RandomSource σ] [RandomSource τ]
  {resolver : ρ} {other : ρ'}

/-- Where its name is looked up alike and its draws are answered alike, a term comes to the
same. -/
theorem Term.exists_resolves_alike (term : Term) (stateless : Resolver.Stateless resolver)
    (otherStateless : Resolver.Stateless other)
    (agree : ∀ name, term = .identifier name →
      (Resolver.lookUp resolver name.text).1 = (Resolver.lookUp other name.text).1)
    {left leftNext : σ} {right rightNext : τ} {values : List Int}
    (leftAnswers : Answers left term.events values leftNext)
    (rightAnswers : Answers right term.events values rightNext) :
    ∃ outcome, Resolves term resolver left outcome resolver leftNext ∧
      Resolves term other right outcome other rightNext := by
  cases term with
  | literal value =>
      cases leftAnswers
      cases rightAnswers
      exact ⟨_, .literal, .literal⟩
  | identifier name =>
      cases leftAnswers with
      | lookup leftAnswers =>
          cases leftAnswers
          cases rightAnswers with
          | lookup rightAnswers =>
              cases rightAnswers
              have agreed := agree name rfl
              cases answer : (Resolver.lookUp resolver name.text).1 with
              | none =>
                  have found := stateless.lookUp_eq answer
                  have otherFound := otherStateless.lookUp_eq (agreed.symm.trans answer)
                  exact ⟨_, .unknown found, .unknown otherFound⟩
              | some value =>
                  have found := stateless.lookUp_eq answer
                  have otherFound := otherStateless.lookUp_eq (agreed.symm.trans answer)
                  by_cases fits : value ∈ wordRange
                  · exact ⟨_, .known found fits, .known otherFound fits⟩
                  · exact ⟨_, .knownBeyond found fits, .knownBeyond otherFound fits⟩
  | roll count faces =>
      by_cases faceless : faces < 1
      · rw [events, if_pos faceless] at leftAnswers rightAnswers
        cases leftAnswers
        cases rightAnswers
        exact ⟨_, .noFaces faceless, .noFaces faceless⟩
      · have hasFaces : 1 ≤ faces := by omega
        rw [Term.events_roll hasFaces] at leftAnswers rightAnswers
        by_cases fits : values.sum ∈ wordRange
        · exact ⟨_, .rolled hasFaces leftAnswers fits, .rolled hasFaces rightAnswers fits⟩
        · exact ⟨_, .rolledBeyond hasFaces leftAnswers fits,
            .rolledBeyond hasFaces rightAnswers fits⟩

/-- Where names are looked up alike and draws are answered alike, terms come to the same one
after the other. -/
theorem ResolvesAll.exists_alike {terms : List Term} (stateless : Resolver.Stateless resolver)
    (otherStateless : Resolver.Stateless other)
    (agree : ∀ name, Term.identifier name ∈ terms →
      (Resolver.lookUp resolver name.text).1 = (Resolver.lookUp other name.text).1)
    {left leftNext : σ} {right rightNext : τ} {values : List Int}
    (leftAnswers : Answers left (terms.flatMap Term.events) values leftNext)
    (rightAnswers : Answers right (terms.flatMap Term.events) values rightNext) :
    ∃ outcomes, ResolvesAll terms resolver left outcomes resolver leftNext ∧
      ResolvesAll terms other right outcomes other rightNext := by
  induction terms generalizing left right values with
  | nil =>
      cases leftAnswers
      cases rightAnswers
      exact ⟨[], .nothing, .nothing⟩
  | cons term terms ih =>
      rw [List.flatMap_cons] at leftAnswers rightAnswers
      obtain ⟨front, back, middle, rfl, leftFirst, leftRest⟩ := answers_append_iff.1 leftAnswers
      obtain ⟨front', back', middle', same, rightFirst, rightRest⟩ :=
        answers_append_iff.1 rightAnswers
      -- As many answers belong to the first term on either side, so they are the same.
      have sameLength : front.length = front'.length :=
        leftFirst.length_eq.trans rightFirst.length_eq.symm
      obtain ⟨rfl, rfl⟩ := List.append_inj same sameLength
      obtain ⟨outcome, resolves, resolves'⟩ :=
        term.exists_resolves_alike stateless otherStateless
          (fun name same => agree name (same ▸ List.mem_cons_self)) leftFirst rightFirst
      obtain ⟨outcomes, rest, rest'⟩ :=
        ih (fun name member => agree name (List.mem_cons_of_mem _ member)) leftRest rightRest
      exact ⟨outcome :: outcomes, .next resolves rest, .next resolves' rest'⟩

/-- These rounds have asked for the same so far, and they go on alike with these terms: the
names in them are looked up alike, and their draws are answered alike. -/
structure AgreeOn (terms : List Term) (left : Round ρ σ) (right : Round ρ' τ) : Prop where
  stateless : Resolver.Stateless left.resolver
  otherStateless : Resolver.Stateless right.resolver
  lookups : ∀ name, .identifier name ∈ terms →
    (Resolver.lookUp left.resolver name.text).1 = (Resolver.lookUp right.resolver name.text).1
  draws : answersTo left.source (terms.flatMap Term.events) =
    answersTo right.source (terms.flatMap Term.events)
  record : left.record = right.record

namespace AgreeOn

variable {left : Round ρ σ} {right : Round ρ' τ}

/-- The first term comes to the same and leaves rounds that go on alike, or its dice break off
at the same draw. -/
theorem resolve {term : Term} {terms : List Term} (agree : AgreeOn (term :: terms) left right) :
    (∃ outcome leftNext rightNext, left.resolve term = (.ok outcome, leftNext) ∧
      right.resolve term = (.ok outcome, rightNext) ∧ AgreeOn terms leftNext rightNext) ∨
    ∃ failure leftNext rightNext, left.resolve term = (.error failure, leftNext) ∧
      right.resolve term = (.error failure, rightNext) ∧ leftNext.record = rightNext.record := by
  obtain ⟨⟨source, record⟩, resolver⟩ := left
  obtain ⟨⟨source', record'⟩, resolver'⟩ := right
  obtain ⟨stateless, otherStateless, lookups, draws, rfl⟩ := agree
  rw [List.flatMap_cons] at draws
  have here : answersTo source term.events = answersTo source' term.events := by
    rw [answersTo_eq_take, draws, ← answersTo_eq_take]
  rcases answers_or_refuses_of_answersTo_eq here with
    ⟨values, leftNext, rightNext, leftAnswers, rightAnswers⟩ |
    ⟨made, failure, leftNext, rightNext, leftRefuses, rightRefuses⟩
  · left
    obtain ⟨outcome, resolves, resolves'⟩ :=
      term.exists_resolves_alike stateless otherStateless
        (fun name same => lookups name (same ▸ List.mem_cons_self)) leftAnswers rightAnswers
    refine ⟨outcome, _, _, resolves.resolve_eq record, resolves'.resolve_eq record, stateless,
      otherStateless, fun name member => lookups name (List.mem_cons_of_mem _ member), ?_, rfl⟩
    rw [leftAnswers.answersTo_append, rightAnswers.answersTo_append] at draws
    exact List.append_cancel_left draws
  · right
    exact ⟨failure, _, _, Round.resolve_of_refuses leftRefuses resolver record,
      Round.resolve_of_refuses rightRefuses resolver' record, rfl⟩

/-- Rounds that go on alike come to the same and ask for the same, whether or not they end. -/
theorem foldPairs {steps : List (Operator × Term)} (limit : Text.DigitLimit)
    (agree : AgreeOn (steps.map Prod.snd) left right) (soFar : Except EvalError Int) :
    (Guarded.foldPairs limit (steps.map Prod.fst) (steps.map Prod.snd) soFar left).1 =
      (Guarded.foldPairs limit (steps.map Prod.fst) (steps.map Prod.snd) soFar right).1 ∧
    (Guarded.foldPairs limit (steps.map Prod.fst) (steps.map Prod.snd) soFar left).2.record =
      (Guarded.foldPairs limit (steps.map Prod.fst) (steps.map Prod.snd) soFar right).2.record := by
  induction steps generalizing left right soFar with
  | nil => exact ⟨rfl, agree.record⟩
  | cons step steps ih =>
      obtain ⟨op, term⟩ := step
      simp only [List.map_cons, Guarded.foldPairs, Guarded.resolve_eq]
      rcases agree.resolve with
        ⟨operand, leftNext, rightNext, resolved, resolved', later⟩ |
        ⟨failure, leftNext, rightNext, resolved, resolved', sameRecord⟩
      · rw [resolved, resolved']
        by_cases spelled : ∀ number ∈ Guarded.mentioned term, limit.Spells number
        · simp only [Guarded.announce_of_spelled spelled]
          cases Guarded.combine limit op soFar operand with
          | error breach => exact ⟨rfl, later.record⟩
          | ok combined => exact ih later combined
        · rw [Guarded.announce_of_not_spelled spelled, Guarded.announce_of_not_spelled spelled]
          exact ⟨rfl, later.record⟩
      · rw [resolved, resolved']
        exact ⟨rfl, sameRecord⟩

end AgreeOn

namespace Formula

/-- Evaluations that find the same and are told the same come to the same and ask for the
same, whether or not they end. -/
theorem evaluateWithin_congr (limit : Text.DigitLimit) {formula : Formula}
    (stateless : Resolver.Stateless resolver) (otherStateless : Resolver.Stateless other)
    (agree : ∀ name ∈ formula.identifiers,
      (Resolver.lookUp resolver name.text).1 = (Resolver.lookUp other name.text).1)
    {left : σ} {right : τ}
    (alike : answersTo left formula.events = answersTo right formula.events) :
    (formula.evaluateWithin limit resolver (.start left)).1 =
      (formula.evaluateWithin limit other (.start right)).1 ∧
    (formula.evaluateWithin limit resolver (.start left)).2.events =
      (formula.evaluateWithin limit other (.start right)).2.events := by
  obtain ⟨first, steps⟩ := formula
  have start : AgreeOn (first :: steps.map Prod.snd) (Round.mk (.start left) resolver)
      ⟨.start right, other⟩ :=
    ⟨stateless, otherStateless, fun name member => agree name (mem_identifiers.2 member), alike,
      rfl⟩
  simp only [evaluateWithin_eq_goOn, Play.events]
  rcases start.resolve with
    ⟨outcome, leftNext, rightNext, resolved, resolved', later⟩ |
    ⟨failure, leftNext, rightNext, resolved, resolved', sameRecord⟩
  · rw [resolved, resolved']
    by_cases spelled : ∀ number ∈ Guarded.mentioned first, limit.Spells number
    · simp only [Guarded.announce_of_spelled spelled]
      obtain ⟨sameOutcome, sameRecord⟩ := later.foldPairs limit outcome
      exact ⟨sameOutcome, congrArg List.reverse sameRecord⟩
    · rw [Guarded.announce_of_not_spelled spelled, Guarded.announce_of_not_spelled spelled]
      exact ⟨rfl, congrArg List.reverse later.record⟩
  · rw [resolved, resolved']
    exact ⟨rfl, congrArg List.reverse sameRecord⟩

/-- The same without tests, which is what evaluation is on a host without a limit. -/
theorem evaluate_congr {formula : Formula} (stateless : Resolver.Stateless resolver)
    (otherStateless : Resolver.Stateless other)
    (agree : ∀ name ∈ formula.identifiers,
      (Resolver.lookUp resolver name.text).1 = (Resolver.lookUp other name.text).1)
    {left : σ} {right : τ}
    (alike : answersTo left formula.events = answersTo right formula.events) :
    (formula.evaluate resolver (.start left)).1 = (formula.evaluate other (.start right)).1 ∧
    (formula.evaluate resolver (.start left)).2.events =
      (formula.evaluate other (.start right)).2.events := by
  have spelled : ∀ number ∈ formula.numbers, Text.DigitLimit.unlimited.Spells number :=
    fun _ _ => trivial
  have ends := endsWithin_of_spelled spelled resolver (.start left)
  have otherEnds := endsWithin_of_spelled spelled other (.start right)
  have same := evaluateWithin_congr .unlimited stateless otherStateless agree alike
  rw [ends.evaluateWithin_eq, otherEnds.evaluateWithin_eq] at same
  exact ⟨Except.ok.inj same.1, same.2⟩

/-- An evaluation draws nothing if and only if the formula has nothing to draw. -/
theorem evaluate_noDraw_iff {formula : Formula} {resolver : ρ} {source : σ} :
    (∀ event ∈ (formula.evaluate resolver (.start source)).2.events, event.isDraw = false) ↔
      ∀ event ∈ formula.events, event.isDraw = false := by
  obtain ⟨made, isPrefix, events, draws⟩ :=
    formula.exists_events_evaluate resolver (Play.start source)
  have onlyMade : (formula.evaluate resolver (.start source)).2.events = made := events
  rw [onlyMade]
  constructor
  · intro noDraw event asked
    by_contra isDraw
    obtain ⟨drawn, member, isDrawn⟩ := draws ⟨event, asked, Bool.eq_true_of_not_eq_false isDraw⟩
    rw [noDraw drawn member] at isDrawn
    cases isDrawn
  · intro noDraw event asked
    exact noDraw event (isPrefix.subset asked)

/-- A formula that has nothing to draw leaves the source alone, even if its evaluation is cut
short. -/
theorem evaluateWithin_of_noDraw {formula : Formula}
    (noDraw : ∀ event ∈ formula.events, event.isDraw = false) (limit : Text.DigitLimit)
    (resolver : ρ) (source : σ) :
    (formula.evaluateWithin limit resolver (.start source)).2.source = source ∧
    ∀ event ∈ (formula.evaluateWithin limit resolver (.start source)).2.events,
      event.isDraw = false := by
  obtain ⟨begun, isPrefix, same⟩ := exists_front limit formula resolver (.start source)
  have begunNoDraw : ∀ event ∈ begun.events, event.isDraw = false := by
    intro event asked
    obtain ⟨term, member, asked⟩ := List.mem_flatMap.1 asked
    exact noDraw event (List.mem_flatMap.2 ⟨term, isPrefix.subset member, asked⟩)
  rw [same]
  refine ⟨?_, evaluate_noDraw_iff.2 begunNoDraw⟩
  obtain ⟨_, evaluated⟩ :=
    begun.evaluate_round resolver (.start source) (answers_of_noDraw begunNoDraw source)
  rw [evaluated]

end Formula

end TwoRuns

end DiceFormula
