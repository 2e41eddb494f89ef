/-
# Evaluating formulas

A formula is evaluated strictly from left to right: the first term gives the
first value, and each step applies its operator to the value so far and the value
of its term.  There is no precedence.

Every term is resolved exactly once and in order, also after something has gone
wrong: a failure is remembered, the remaining terms still make their look-ups and
draws, and the first failure is the answer.  So the requests made to the source
depend on the formula alone.  Only a draw that is not answered ends the
evaluation at once.

`Play` is the source in use together with a record of everything that was asked, and
`Round` a play together with the resolver that knows the values of names.  Resolver and
source are asked and move on: what they answer may depend on what was asked before.

Messages are put together from numbers of any length.  Where the digits that can be
written are limited, a formula with longer numbers may be cut short before its end;
`Formula.evaluateWithin` evaluates with such a limit.
-/

import DiceFormula.Formula.Parser
import DiceFormula.Text.Quoted
import DiceFormula.Dice.Source

namespace DiceFormula

/-- A computation whose result can leave the range of values. -/
inductive Operation where
  | lookup (name : String)
  | roll (count : Nat) (faces : Int)
  | apply (op : Operator) (left right : Int)
deriving DecidableEq

namespace Operation

def text : Operation → String
  | lookup name => "identifier " ++ Text.quoted name
  | roll count faces => "roll " ++ (Term.roll count faces).text
  | apply op left right =>
    Text.intText left ++ String.ofList [' ', op.symbol, ' '] ++ Text.intText right

end Operation

/-- Why a well-formed formula has no value. -/
inductive EvalError where
  | unknownIdentifier (name : String)
  | invalidDice (count : Nat) (faces : Int)
  | divisionByZero (left : Int)
  | overflow (operation : Operation)
deriving DecidableEq

namespace EvalError

/-- The message about a result out of range, for any description of the computation. -/
def overflowMessage (operation : String) : String :=
  "Arithmetic overflow in " ++ operation

def message : EvalError → String
  | unknownIdentifier name => "Unknown identifier: " ++ Text.quoted name
  | invalidDice count faces =>
    "Invalid dice " ++ (Term.roll count faces).text ++ ": dice need at least one face"
  | divisionByZero left => "Division by zero (" ++ Text.intText left ++ " / 0)"
  | overflow operation => overflowMessage operation.text

end EvalError

/-- Whether an integer is in the range of values, the signed 64-bit integers. -/
def InRange (value : Int) : Prop :=
  Text.minValue ≤ value ∧ value ≤ Text.maxValue

instance (value : Int) : Decidable (InRange value) :=
  inferInstanceAs (Decidable (_ ∧ _))

/-- A computed value, if it is in range. -/
def checked (value : Int) (operation : Operation) : Except EvalError Int :=
  if InRange value then .ok value else .error (.overflow operation)

namespace Operator

/-- The quotient of two integers without its fraction: that of their magnitudes, with a minus
sign if just one of the two is negative. -/
def quotient (left right : Int) : Int :=
  let magnitude : Int := (left.natAbs / right.natAbs : Nat)
  if left < 0 ↔ right < 0 then magnitude else -magnitude

/-- The fraction is dropped toward zero. -/
theorem quotient_eq_tdiv (left right : Int) : quotient left right = left.tdiv right := by
  rw [quotient]
  cases left with
  | ofNat m =>
    have notNegative : ¬ Int.ofNat m < 0 := Int.not_lt.2 (Int.natCast_nonneg m)
    cases right with
    | ofNat n =>
      have divisorNotNegative : ¬ Int.ofNat n < 0 := Int.not_lt.2 (Int.natCast_nonneg n)
      rw [if_pos (iff_of_false notNegative divisorNotNegative)]
      rfl
    | negSucc n =>
      rw [if_neg fun same => notNegative (same.2 (Int.negSucc_lt_zero n))]
      rfl
  | negSucc m =>
    have negative := Int.negSucc_lt_zero m
    cases right with
    | ofNat n =>
      have divisorNotNegative : ¬ Int.ofNat n < 0 := Int.not_lt.2 (Int.natCast_nonneg n)
      rw [if_neg fun same => divisorNotNegative (same.1 negative)]
      rfl
    | negSucc n =>
      rw [if_pos (iff_of_true negative (Int.negSucc_lt_zero n))]
      rfl

/-- Applies an operator to two integers.  Division drops the fraction. -/
def apply (op : Operator) (left right : Int) : Except EvalError Int :=
  match op with
  | add => checked (left + right) (.apply op left right)
  | sub => checked (left - right) (.apply op left right)
  | mul => checked (left * right) (.apply op left right)
  | div =>
    if right = 0 then .error (.divisionByZero left)
    else checked (quotient left right) (.apply op left right)

/-- Applies an operator to two outcomes.  A failure on the left comes before one
on the right, and both come before one of the operator itself. -/
def combine (op : Operator) (left right : Except EvalError Int) : Except EvalError Int :=
  match left with
  | .error failure => .error failure
  | .ok leftValue =>
    match right with
    | .error failure => .error failure
    | .ok rightValue => op.apply leftValue rightValue

end Operator

/-- A state in which names can be looked up. -/
class Resolver (ρ : Type) where
  /-- Looks up a name: its value, if it has one, and the state afterwards. -/
  lookUp : ρ → (name : String) → Option Int × ρ

/-- A look-up that depends on the name alone never changes. -/
instance : Resolver (String → Option Int) := ⟨fun lookup name => (lookup name, lookup)⟩

/-- Something an evaluation asks for. -/
inductive Event where
  | lookup (name : Name)
  | draw (low high : Int)
deriving DecidableEq

/-- The source in use and what has been asked so far, the latest first. -/
structure Play (σ : Type) where
  source : σ
  record : List Event

namespace Play

variable {σ : Type}

def start (source : σ) : Play σ :=
  ⟨source, []⟩

/-- Everything that was asked, in order. -/
def events (play : Play σ) : List Event :=
  play.record.reverse

def noteLookup (play : Play σ) (name : Name) : Play σ :=
  ⟨play.source, .lookup name :: play.record⟩

/-- Draws from the source and notes the request, answered or not. -/
def draw [RandomSource σ] (play : Play σ) (low high : Int) : Except DrawFailure Int × Play σ :=
  match play with
  | ⟨source, record⟩ =>
    match RandomSource.draw source low high with
    | (answer, next) => (answer, ⟨next, .draw low high :: record⟩)

/-- Draws a number of dice with the same faces and adds them up. -/
def drawDice [RandomSource σ] (faces : Int) :
    (count : Nat) → (total : Int) → Play σ → Except DrawFailure Int × Play σ
  | 0, total, play => (.ok total, play)
  | count + 1, total, play =>
    match play.draw 1 faces with
    | (.error failure, next) => (.error failure, next)
    | (.ok value, next) => drawDice faces count (total + value) next

/-- Rolls dice.  All of them are drawn before the sum is checked. -/
def roll [RandomSource σ] (play : Play σ) (count : Nat) (faces : Int) :
    Except DrawFailure (Except EvalError Int) × Play σ :=
  if faces < 1 then (.ok (.error (.invalidDice count faces)), play)
  else
    match play.drawDice faces count 0 with
    | (.error failure, next) => (.error failure, next)
    | (.ok total, next) => (.ok (checked total (.roll count faces)), next)

end Play

/-- A play and the resolver in use. -/
structure Round (ρ σ : Type) extends Play σ where
  resolver : ρ

namespace Round

variable {ρ σ : Type} [Resolver ρ] [RandomSource σ]

/-- The value of an identifier, given what the look-up found.  Literals come as
they are; a value that is looked up has to be in range. -/
def lookedUp (name : Name) : Option Int → Except EvalError Int
  | none => .error (.unknownIdentifier name.text)
  | some value => checked value (.lookup name.text)

def resolve (round : Round ρ σ) :
    Term → Except DrawFailure (Except EvalError Int) × Round ρ σ
  | .literal value => (.ok (.ok value), round)
  | .identifier name =>
    match round with
    | ⟨play, resolver⟩ =>
      match Resolver.lookUp resolver name.text with
      | (found, next) => (.ok (lookedUp name found), ⟨play.noteLookup name, next⟩)
  | .roll count faces =>
    match round with
    | ⟨play, resolver⟩ =>
      match play.roll count faces with
      | (outcome, next) => (outcome, ⟨next, resolver⟩)

/-- Carries the outcome so far through the remaining steps. -/
def foldSteps : List (Operator × Term) → Except EvalError Int → Round ρ σ →
    Except DrawFailure (Except EvalError Int) × Round ρ σ
  | [], outcome, round => (.ok outcome, round)
  | (op, term) :: rest, outcome, round =>
    match round.resolve term with
    | (.error failure, next) => (.error failure, next)
    | (.ok operand, next) => foldSteps rest (op.combine outcome operand) next

end Round

namespace Formula

variable {ρ σ : Type}

/-- Evaluates a formula within a play: its outcome, unless a draw was not
answered, and the play and the resolver afterwards. -/
def evaluate [Resolver ρ] [RandomSource σ] (formula : Formula) (resolver : ρ)
    (play : Play σ) : Except DrawFailure (Except EvalError Int) × Round ρ σ :=
  match Round.resolve ⟨play, resolver⟩ formula.first with
  | (.error failure, next) => (.error failure, next)
  | (.ok outcome, next) => Round.foldSteps formula.steps outcome next

/-- Reads a text and evaluates its formula.  Nothing is asked for a text that is none. -/
def evaluateText [Resolver ρ] [RandomSource σ] (text : String) (resolver : ρ)
    (play : Play σ) :
    Except SyntaxFault (Except DrawFailure (Except EvalError Int)) × Round ρ σ :=
  match parse text with
  | .error fault => (.error fault, ⟨play, resolver⟩)
  | .ok formula =>
    match formula.evaluate resolver play with
    | (outcome, next) => (.ok outcome, next)

end Formula

/-- What is asked for when a term is resolved and no draw fails. -/
def Term.events : Term → List Event
  | .literal _ => []
  | .identifier name => [.lookup name]
  | .roll count faces => if faces < 1 then [] else List.replicate count (.draw 1 faces)

/-- What is asked for when a formula is evaluated and no draw fails. -/
def Formula.events (formula : Formula) : List Event :=
  formula.terms.flatMap Term.events

end DiceFormula
