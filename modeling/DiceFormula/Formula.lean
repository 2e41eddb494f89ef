/-
# Formulas

A formula is a first term followed by steps, each an operator and a term.  The
shape itself says that a formula starts and ends with a term and that terms and
operators alternate, so there is one operator fewer than terms.  What a reader
of a formula can learn without evaluating it is defined here as well: its text,
its identifiers, its rolls, and whether it rolls at all.
-/

import DiceFormula.Term

namespace DiceFormula

/-- A first term and the steps applied to it from left to right. -/
structure Formula where
  first : Term
  steps : List (Operator × Term)
deriving DecidableEq

namespace Formula

def terms (formula : Formula) : List Term :=
  formula.first :: formula.steps.map Prod.snd

/-- All operators in the order they are written. -/
def operators (formula : Formula) : List Operator :=
  formula.steps.map Prod.fst

/-- The integers in the terms of a formula. -/
def numbers (formula : Formula) : List Int :=
  formula.terms.flatMap Term.numbers

/-- The formula with the given terms and operators, if there is one operator
between every two neighbouring terms. -/
def ofTerms? : List Term → List Operator → Option Formula
  | [], _ => none
  | first :: rest, operators =>
    if operators.length = rest.length then some ⟨first, operators.zip rest⟩ else none

/-- Two formulas joined by an operator. -/
def join (left : Formula) (op : Operator) (right : Formula) : Formula :=
  ⟨left.first, left.steps ++ (op, right.first) :: right.steps⟩

/-- The characters of one step: operator and term, a space before each. -/
def stepChars (step : Operator × Term) : List Char :=
  ' ' :: step.1.symbol :: ' ' :: step.2.chars

/-- The characters of a formula in its canonical form. -/
def chars (formula : Formula) : List Char :=
  formula.first.chars ++ formula.steps.flatMap stepChars

def text (formula : Formula) : String :=
  String.ofList formula.chars

/-- The members of a list without repetitions, each where it first appears. -/
def firstAppearances {α : Type} [DecidableEq α] (items : List α) : List α :=
  (items.foldl (fun seen item => if item ∈ seen then seen else item :: seen) []).reverse

/-- The names a formula looks up, each once, in order of first appearance. -/
def identifiers (formula : Formula) : List Name :=
  firstAppearances (formula.terms.filterMap Term.name?)

/-- The rolls of a formula in the order they are written. -/
def rolls (formula : Formula) : List Term :=
  formula.terms.filter Term.isRoll

/-- Whether a formula has no rolls, so that evaluating it never draws. -/
def isDeterministic (formula : Formula) : Bool :=
  formula.rolls.isEmpty

/-- There is one operator fewer than terms. -/
theorem length_terms (formula : Formula) :
    formula.terms.length = formula.operators.length + 1 := by
  simp [terms, operators]

/-- A joined formula has the terms of both parts. -/
theorem terms_join (left : Formula) (op : Operator) (right : Formula) :
    (left.join op right).terms = left.terms ++ right.terms := by
  simp [terms, join]

/-- A joined formula has the operators of both parts and the one between them. -/
theorem operators_join (left : Formula) (op : Operator) (right : Formula) :
    (left.join op right).operators = left.operators ++ op :: right.operators := by
  simp [operators, join]

/-- A formula is put together again from its terms and operators. -/
theorem ofTerms?_terms (formula : Formula) :
    ofTerms? formula.terms formula.operators = some formula := by
  have rejoin : ∀ steps : List (Operator × Term),
      (steps.map Prod.fst).zip (steps.map Prod.snd) = steps := by
    intro steps
    induction steps with
    | nil => rfl
    | cons step rest ih => simp [ih]
  simp [terms, operators, ofTerms?, rejoin]

end Formula

end DiceFormula
