/-
# What a term comes to

Asked for some draws in turn, a source answers each of them and moves on.  What a term
comes to depends on the term, on the look-up of its name and on the answers to its
draws, and one relation says how.  A term that is resolved in a round comes to exactly
that, and the round goes on from the states reached by the requests of the term.
-/

import DiceFormula.Evaluation
import Mathlib.Algebra.Order.Ring.Int
import Mathlib.Data.Set.Operations

namespace DiceFormula

/-- The values that fit into a signed word of 64 bits. -/
def wordRange : Set Int :=
  {value | -2 ^ 63 ≤ value ∧ value ≤ 2 ^ 63 - 1}

instance (value : Int) : Decidable (value ∈ wordRange) :=
  inferInstanceAs (Decidable (_ ∧ _))

theorem natCast_mem_wordRange_iff {number : Nat} :
    (number : Int) ∈ wordRange ↔ number ≤ 2 ^ 63 - 1 := by
  rw [wordRange, Set.mem_ofPred_eq]
  omega

theorem inRange_iff_mem_wordRange {value : Int} : InRange value ↔ value ∈ wordRange := by
  have greatest : (Text.maxValue : Int) = 2 ^ 63 - 1 := by rfl
  have least : Text.minValue = -2 ^ 63 := by rfl
  rw [InRange, wordRange, Set.mem_ofPred_eq, greatest, least]

theorem checked_eq (value : Int) (operation : Operation) :
    checked value operation =
      if value ∈ wordRange then .ok value else .error (.overflow operation) := by
  by_cases fits : value ∈ wordRange
  · rw [checked, if_pos fits, if_pos (inRange_iff_mem_wordRange.2 fits)]
  · rw [checked, if_neg fits, if_neg (mt inRange_iff_mem_wordRange.1 fits)]

theorem checked_of_mem {value : Int} (fits : value ∈ wordRange) (operation : Operation) :
    checked value operation = .ok value := by
  rw [checked_eq, if_pos fits]

theorem checked_of_notMem {value : Int} (beyond : value ∉ wordRange) (operation : Operation) :
    checked value operation = .error (.overflow operation) := by
  rw [checked_eq, if_neg beyond]

section Answers

variable {σ : Type} [RandomSource σ]

/-- Asked for these requests in turn, a source answers its draws with these values and
ends in this state. -/
inductive Answers : σ → List Event → List Int → σ → Prop
  | nothing {source : σ} : Answers source [] [] source
  | lookup {source next : σ} {name : Name} {events : List Event} {values : List Int}
      (rest : Answers source events values next) :
      Answers source (.lookup name :: events) values next
  | draw {source between next : σ} {low high value : Int} {events : List Event}
      {values : List Int} (answer : RandomSource.draw source low high = (.ok value, between))
      (rest : Answers between events values next) :
      Answers source (.draw low high :: events) (value :: values) next

/-- Requests can be made in two parts, the second from the state the first part leads to. -/
theorem answers_append_iff {source next : σ} {first second : List Event} {values : List Int} :
    Answers source (first ++ second) values next ↔
      ∃ left right between, values = left ++ right ∧
        Answers source first left between ∧ Answers between second right next := by
  induction first generalizing source values with
  | nil =>
      constructor
      · intro answers
        exact ⟨[], values, source, rfl, .nothing, answers⟩
      · rintro ⟨left, right, between, rfl, none, answers⟩
        cases none
        exact answers
  | cons event rest ih =>
      constructor
      · intro answers
        cases answers with
        | lookup answers =>
            obtain ⟨left, right, between, rfl, leftAnswers, rightAnswers⟩ := ih.1 answers
            exact ⟨left, right, between, rfl, .lookup leftAnswers, rightAnswers⟩
        | @draw _ _ _ _ _ value _ _ answer answers =>
            obtain ⟨left, right, between, rfl, leftAnswers, rightAnswers⟩ := ih.1 answers
            exact ⟨value :: left, right, between, rfl, .draw answer leftAnswers, rightAnswers⟩
      · rintro ⟨left, right, between, rfl, leftAnswers, rightAnswers⟩
        cases leftAnswers with
        | lookup leftAnswers =>
            exact .lookup (ih.2 ⟨_, right, between, rfl, leftAnswers, rightAnswers⟩)
        | draw answer leftAnswers =>
            exact .draw answer (ih.2 ⟨_, right, between, rfl, leftAnswers, rightAnswers⟩)

/-- Dice that are all answered add up to the sum of the answers. -/
theorem Play.drawDice_eq {source next : σ} {count : Nat} {faces : Int} {values : List Int}
    (answers : Answers source (List.replicate count (.draw 1 faces)) values next)
    (record : List Event) (total : Int) :
    Play.drawDice faces count total ⟨source, record⟩ =
      (.ok (total + values.sum), ⟨next, List.replicate count (.draw 1 faces) ++ record⟩) := by
  induction count generalizing source values record total with
  | zero =>
      cases answers
      simp [drawDice]
  | succ count ih =>
      rw [List.replicate_succ] at answers
      cases answers with
      | draw answer answers =>
          simp only [drawDice, draw, answer, ih answers, List.sum_cons]
          rw [Int.add_assoc, List.append_cons, ← List.replicate_succ',
            List.replicate_succ]

end Answers

/-- The resolver after these requests have been made in turn. -/
def Resolver.after {ρ : Type} [Resolver ρ] (resolver : ρ) : List Event → ρ
  | [] => resolver
  | .lookup name :: rest => after (lookUp resolver name.text).2 rest
  | .draw _ _ :: rest => after resolver rest

variable {ρ σ : Type} [Resolver ρ] [RandomSource σ]

theorem Resolver.after_append (resolver : ρ) (first second : List Event) :
    after resolver (first ++ second) = after (after resolver first) second := by
  induction first generalizing resolver with
  | nil => rfl
  | cons event rest ih => cases event <;> exact ih _

@[simp]
theorem Resolver.after_replicate_draw (resolver : ρ) (count : Nat) (low high : Int) :
    after resolver (List.replicate count (.draw low high)) = resolver := by
  induction count with
  | zero => rfl
  | succ count ih => exact ih

/-- In these states of the resolver and of the source a term comes to this outcome and
leaves them in these states. -/
inductive Resolves : Term → ρ → σ → Except EvalError Int → ρ → σ → Prop
  /-- A literal is its value. -/
  | literal {value : Nat} {resolver : ρ} {source : σ} :
      Resolves (.literal value) resolver source (.ok value) resolver source
  /-- There is no value for the name. -/
  | unknown {name : Name} {resolver after : ρ} {source : σ}
      (found : Resolver.lookUp resolver name.text = (none, after)) :
      Resolves (.identifier name) resolver source (.error (.unknownIdentifier name.text))
        after source
  /-- There is a value for the name. -/
  | known {name : Name} {value : Int} {resolver after : ρ} {source : σ}
      (found : Resolver.lookUp resolver name.text = (some value, after))
      (fits : value ∈ wordRange) :
      Resolves (.identifier name) resolver source (.ok value) after source
  /-- The value for the name does not fit. -/
  | knownBeyond {name : Name} {value : Int} {resolver after : ρ} {source : σ}
      (found : Resolver.lookUp resolver name.text = (some value, after))
      (beyond : value ∉ wordRange) :
      Resolves (.identifier name) resolver source (.error (.overflow (.lookup name.text)))
        after source
  /-- Dice without faces are not drawn. -/
  | noFaces {count : Nat} {faces : Int} {resolver : ρ} {source : σ} (faceless : faces < 1) :
      Resolves (.roll count faces) resolver source (.error (.invalidDice count faces))
        resolver source
  /-- The dice are drawn and added up. -/
  | rolled {count : Nat} {faces : Int} {values : List Int} {resolver : ρ} {source next : σ}
      (hasFaces : 1 ≤ faces)
      (answers : Answers source (List.replicate count (.draw 1 faces)) values next)
      (fits : values.sum ∈ wordRange) :
      Resolves (.roll count faces) resolver source (.ok values.sum) resolver next
  /-- The dice are drawn, and their sum does not fit. -/
  | rolledBeyond {count : Nat} {faces : Int} {values : List Int} {resolver : ρ}
      {source next : σ} (hasFaces : 1 ≤ faces)
      (answers : Answers source (List.replicate count (.draw 1 faces)) values next)
      (beyond : values.sum ∉ wordRange) :
      Resolves (.roll count faces) resolver source (.error (.overflow (.roll count faces)))
        resolver next

theorem Term.events_roll {count : Nat} {faces : Int} (hasFaces : 1 ≤ faces) :
    (Term.roll count faces).events = List.replicate count (.draw 1 faces) := by
  rw [events, if_neg (by omega)]

/-- Dice with faces are drawn, and their sum is checked afterwards. -/
theorem Play.roll_eq {source next : σ} {count : Nat} {faces : Int} {values : List Int}
    (hasFaces : 1 ≤ faces)
    (answers : Answers source (List.replicate count (.draw 1 faces)) values next)
    (record : List Event) :
    Play.roll ⟨source, record⟩ count faces =
      (.ok (checked values.sum (.roll count faces)),
        ⟨next, List.replicate count (.draw 1 faces) ++ record⟩) := by
  have notFaceless : ¬ faces < 1 := by omega
  simp only [roll, if_neg notFaceless, Play.drawDice_eq answers, Int.zero_add]

/-- Resolving a term in a round yields what the term comes to and makes its requests. -/
theorem Resolves.resolve_eq {term : Term} {resolver after : ρ} {source next : σ}
    {outcome : Except EvalError Int}
    (resolves : Resolves term resolver source outcome after next) (record : List Event) :
    Round.resolve ⟨⟨source, record⟩, resolver⟩ term =
      (.ok outcome, ⟨⟨next, term.events.reverse ++ record⟩, after⟩) := by
  cases resolves with
  | literal => rfl
  | unknown found => simp [Round.resolve, found, Round.lookedUp, Play.noteLookup, Term.events]
  | known found fits =>
      simp [Round.resolve, found, Round.lookedUp, checked_of_mem fits, Play.noteLookup,
        Term.events]
  | knownBeyond found beyond =>
      simp [Round.resolve, found, Round.lookedUp, checked_of_notMem beyond, Play.noteLookup,
        Term.events]
  | noFaces faceless => simp [Round.resolve, Play.roll, Term.events, faceless]
  | rolled hasFaces answers fits =>
      simp [Round.resolve, Play.roll_eq hasFaces answers, checked_of_mem fits,
        Term.events_roll hasFaces]
  | rolledBeyond hasFaces answers beyond =>
      simp [Round.resolve, Play.roll_eq hasFaces answers, checked_of_notMem beyond,
        Term.events_roll hasFaces]

/-- A term whose draws are answered comes to something. -/
theorem Term.exists_resolves (term : Term) (resolver : ρ) {source next : σ} {values : List Int}
    (answers : Answers source term.events values next) :
    ∃ outcome, Resolves term resolver source outcome (Resolver.after resolver term.events)
      next := by
  cases term with
  | literal value =>
      cases answers
      exact ⟨_, .literal⟩
  | identifier name =>
      cases answers with
      | lookup answers =>
          cases answers
          rcases found : Resolver.lookUp resolver name.text with ⟨value?, after⟩
          have afterEq : Resolver.after resolver (Term.identifier name).events = after := by
            simp [events, Resolver.after, found]
          rw [afterEq]
          cases value? with
          | none => exact ⟨_, .unknown found⟩
          | some value =>
              by_cases fits : value ∈ wordRange
              · exact ⟨_, .known found fits⟩
              · exact ⟨_, .knownBeyond found fits⟩
  | roll count faces =>
      by_cases faceless : faces < 1
      · rw [events, if_pos faceless] at answers ⊢
        cases answers
        exact ⟨_, .noFaces faceless⟩
      · have hasFaces : 1 ≤ faces := by omega
        rw [Term.events_roll hasFaces] at answers ⊢
        rw [Resolver.after_replicate_draw]
        by_cases fits : values.sum ∈ wordRange
        · exact ⟨_, .rolled hasFaces answers fits⟩
        · exact ⟨_, .rolledBeyond hasFaces answers fits⟩

end DiceFormula
