/-
# Evaluation in two phases

Evaluation resolves terms and applies operators in one pass, and after a failure it
goes on resolving.  The same answer is found in two phases: first all terms are
resolved in order, whatever they come to, and then the outcomes are folded from left to
right, where the first failure ends the fold.
-/

import DiceFormula.Proofs.Outcomes

namespace DiceFormula

/-- The integer an operator yields, without any bound on its size.  Division drops the
fraction, and there is no division by zero. -/
def Operator.exactResult (op : Operator) (left right : Int) : Option Int :=
  match op with
  | add => some (left + right)
  | sub => some (left - right)
  | mul => some (left * right)
  | div => if right = 0 then none else some (left.tdiv right)

/-- The exact result of an operator, turned down where it does not exist or does not
fit into a word. -/
def applyExactly (op : Operator) (left right : Int) : Except EvalError Int :=
  match op.exactResult left right with
  | none => .error (.divisionByZero left)
  | some value =>
    if value ∈ wordRange then .ok value else .error (.overflow (.apply op left right))

theorem apply_eq_applyExactly (op : Operator) (left right : Int) :
    op.apply left right = applyExactly op left right := by
  cases op with
  | add => exact checked_eq _ _
  | sub => exact checked_eq _ _
  | mul => exact checked_eq _ _
  | div =>
      by_cases zero : right = 0
      · simp [Operator.apply, applyExactly, Operator.exactResult, zero]
      · simp [Operator.apply, applyExactly, Operator.exactResult, zero, checked_eq,
          Operator.quotient_eq_tdiv]

/-- One step of the fold.  A failure so far comes before one of the operand, and both
come before one of the operator. -/
def foldStep (soFar : Except EvalError Int) (step : Operator × Except EvalError Int) :
    Except EvalError Int := do
  let left ← soFar
  let right ← step.2
  applyExactly step.1 left right

theorem foldStep_eq_combine (soFar operand : Except EvalError Int) (op : Operator) :
    foldStep soFar (op, operand) = op.combine soFar operand := by
  cases soFar with
  | error failure => rfl
  | ok left =>
      cases operand with
      | error failure => rfl
      | ok right => exact (apply_eq_applyExactly op left right).symm

/-- Folds operators and the outcomes of their right operands onto a first outcome. -/
def leftFold (first : Except EvalError Int)
    (steps : List (Operator × Except EvalError Int)) : Except EvalError Int :=
  steps.foldl foldStep first

theorem leftFold_cons (first operand : Except EvalError Int) (op : Operator)
    (steps : List (Operator × Except EvalError Int)) :
    leftFold first ((op, operand) :: steps) = leftFold (op.combine first operand) steps := by
  rw [leftFold, List.foldl_cons, foldStep_eq_combine]
  rfl

variable {ρ σ : Type} [Resolver ρ] [RandomSource σ]

/-- Resolved one after the other, these terms come to these outcomes. -/
inductive ResolvesAll : List Term → ρ → σ → List (Except EvalError Int) → ρ → σ → Prop
  | nothing {resolver : ρ} {source : σ} : ResolvesAll [] resolver source [] resolver source
  | next {term : Term} {terms : List Term} {resolver between after : ρ}
      {source middle last : σ} {outcome : Except EvalError Int}
      {outcomes : List (Except EvalError Int)}
      (resolves : Resolves term resolver source outcome between middle)
      (rest : ResolvesAll terms between middle outcomes after last) :
      ResolvesAll (term :: terms) resolver source (outcome :: outcomes) after last

namespace ResolvesAll

variable {resolver after : ρ} {source last : σ}

/-- Terms whose draws are answered come to something. -/
theorem exists_outcomes {terms : List Term} {values : List Int}
    (answers : Answers source (terms.flatMap Term.events) values last) (resolver : ρ) :
    ∃ outcomes, ResolvesAll terms resolver source outcomes
      (Resolver.after resolver (terms.flatMap Term.events)) last := by
  induction terms generalizing resolver source values with
  | nil =>
      cases answers
      exact ⟨[], .nothing⟩
  | cons term terms ih =>
      rw [List.flatMap_cons] at answers ⊢
      rw [Resolver.after_append]
      obtain ⟨left, right, middle, -, termAnswers, restAnswers⟩ :=
        answers_append_iff.1 answers
      obtain ⟨outcome, resolves⟩ := term.exists_resolves resolver termAnswers
      obtain ⟨outcomes, rest⟩ := ih restAnswers (Resolver.after resolver term.events)
      exact ⟨outcome :: outcomes, .next resolves rest⟩

/-- What a term comes to and where it leads is settled by the states it starts from. -/
theorem unique {terms : List Term} {outcomes others : List (Except EvalError Int)}
    {after' : ρ} {last' : σ} (first : ResolvesAll terms resolver source outcomes after last)
    (second : ResolvesAll terms resolver source others after' last') :
    others = outcomes ∧ after' = after ∧ last' = last := by
  induction first generalizing others with
  | nothing =>
      cases second
      exact ⟨rfl, rfl, rfl⟩
  | next resolves rest ih =>
      cases second with
      | next resolves' rest' =>
          have same := (resolves'.resolve_eq []).symm.trans (resolves.resolve_eq [])
          simp only [Prod.mk.injEq, Except.ok.injEq, Round.mk.injEq, Play.mk.injEq] at same
          obtain ⟨rfl, ⟨rfl, -⟩, rfl⟩ := same
          obtain ⟨rfl, rfl, rfl⟩ := ih rest'
          exact ⟨rfl, rfl, rfl⟩

/-- Carrying an outcome through the steps of a formula folds the outcomes of their terms
onto it, and all the terms make their requests. -/
theorem foldSteps_eq {steps : List (Operator × Term)}
    {outcomes : List (Except EvalError Int)}
    (resolves : ResolvesAll (steps.map Prod.snd) resolver source outcomes after last)
    (record : List Event) (soFar : Except EvalError Int) :
    Round.foldSteps steps soFar ⟨⟨source, record⟩, resolver⟩ =
      (.ok (leftFold soFar ((steps.map Prod.fst).zip outcomes)),
        ⟨⟨last, ((steps.map Prod.snd).flatMap Term.events).reverse ++ record⟩, after⟩) := by
  induction steps generalizing resolver source outcomes record soFar with
  | nil =>
      cases resolves
      rfl
  | cons step steps ih =>
      obtain ⟨op, term⟩ := step
      cases resolves with
      | next resolves rest =>
          rw [Round.foldSteps, resolves.resolve_eq]
          simp only [ih rest, List.map_cons, List.zip_cons_cons, leftFold_cons,
            List.flatMap_cons, List.reverse_append, List.append_assoc]

/-- Evaluating a formula folds the outcomes of its terms and makes their requests. -/
theorem evaluate_eq {formula : Formula} {first : Except EvalError Int}
    {rest : List (Except EvalError Int)}
    (resolves : ResolvesAll formula.terms resolver source (first :: rest) after last)
    (record : List Event) :
    formula.evaluate resolver ⟨source, record⟩ =
      (.ok (leftFold first (formula.operators.zip rest)),
        ⟨⟨last, formula.events.reverse ++ record⟩, after⟩) := by
  cases resolves with
  | next resolves rest =>
      rw [Formula.evaluate, resolves.resolve_eq]
      simp only [rest.foldSteps_eq, Formula.events, Formula.terms, Formula.operators,
        List.flatMap_cons, List.reverse_append, List.append_assoc]

/-- A formula whose draws are answered has an outcome for each of its terms. -/
theorem exists_of_formula {formula : Formula} {values : List Int}
    (answers : Answers source formula.events values last) (resolver : ρ) :
    ∃ first rest, ResolvesAll formula.terms resolver source (first :: rest)
      (Resolver.after resolver formula.events) last := by
  obtain ⟨outcomes, resolves⟩ := exists_outcomes answers resolver
  cases resolves with
  | next resolvesFirst resolvesRest => exact ⟨_, _, .next resolvesFirst resolvesRest⟩

end ResolvesAll

/-- As long as the source answers, evaluation is the left fold of what the terms come to
one after the other, and it ends in the states they lead to. -/
theorem Formula.evaluate_eq_leftFold (formula : Formula) (resolver : ρ) (play : Play σ)
    {values : List Int} {next : σ}
    (answered : Answers play.source formula.events values next) :
    ∃ first rest after last,
      ResolvesAll formula.terms resolver play.source (first :: rest) after last ∧
      (∀ outcomes after' last',
        ResolvesAll formula.terms resolver play.source outcomes after' last' →
          outcomes = first :: rest ∧ after' = after ∧ last' = last) ∧
      (formula.evaluate resolver play).1 =
        .ok (leftFold first (formula.operators.zip rest)) ∧
      (formula.evaluate resolver play).2.resolver = after ∧
      (formula.evaluate resolver play).2.source = last := by
  obtain ⟨first, rest, resolves⟩ := ResolvesAll.exists_of_formula answered resolver
  have evaluated := resolves.evaluate_eq play.record
  refine ⟨first, rest, _, next, resolves, ?_, ?_, ?_, ?_⟩
  · intro outcomes after' last' others
    exact resolves.unique others
  · exact congrArg Prod.fst evaluated
  · exact congrArg (fun result => result.2.resolver) evaluated
  · exact congrArg (fun result => result.2.source) evaluated

/-- Two dice are divided by nothing, and what comes later fails as well. -/
theorem Formula.evaluate_eq_leftFold_divisionByZero :
    let formula : Formula := ⟨.roll 2 6, [(.div, .literal 0), (.add, .roll 1 0)]⟩
    let resolver : String → Option Int := fun _ => none
    let play := Play.start (FixedSource.start 4)
    Answers play.source formula.events [4, 4] ⟨4, #[(1, 6), (1, 6)]⟩ ∧
    ∃ first rest after last,
      ResolvesAll formula.terms resolver play.source (first :: rest) after last ∧
      (∀ outcomes after' last',
        ResolvesAll formula.terms resolver play.source outcomes after' last' →
          outcomes = first :: rest ∧ after' = after ∧ last' = last) ∧
      (formula.evaluate resolver play).1 =
        .ok (leftFold first (formula.operators.zip rest)) ∧
      (formula.evaluate resolver play).2.resolver = after ∧
      (formula.evaluate resolver play).2.source = last := by
  intro formula resolver play
  have answered : Answers play.source formula.events [4, 4] ⟨4, #[(1, 6), (1, 6)]⟩ :=
    .draw rfl (.draw rfl .nothing)
  exact ⟨answered, formula.evaluate_eq_leftFold resolver play answered⟩

end DiceFormula
