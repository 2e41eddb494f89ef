/-
# Sessions

A session keeps one source of draws, one chain of layers of variables, and
formulas stored under names, over any number of steps.  What a step does to the
source and the layers is there for the next one; a step that fails leaves
everything but the source as it was.
-/

import DiceFormula.Evaluation
import DiceFormula.Formula.Diagnostic
import DiceFormula.Variables

namespace DiceFormula

/-- What is kept between the steps of a session. -/
structure Session (σ : Type) where
  source : σ
  layers : List Layer
  formulas : Table Formula

namespace Session

variable {σ : Type}

inductive Step where
  /-- Reads a formula and stores it under a name. -/
  | store (name source : String)
  /-- Evaluates the formula stored under a name. -/
  | run (name : String)
  | evaluate (source : String)
  | set (layer : Nat) (name : String) (value : Option Int)
  | erase (layer : Nat) (name : String)
  | resolve (name : String)
  | draw (low high : Int)

inductive Reply where
  | stored (formula : Formula)
  | value (value : Int)
  | found (value? : Option Int)
  | changed (layer : Layer)
  | syntaxFault (diagnostic : Diagnostic)
  | evalError (error : EvalError)
  | drawFailure (failure : DrawFailure)
  | missing (what : String)

def scope (session : Session σ) : Variables :=
  .ofLayers session.layers

/-- The reply to an evaluation. -/
def Reply.ofOutcome : Except DrawFailure (Except EvalError Int) → Reply
  | .error failure => .drawFailure failure
  | .ok (.error error) => .evalError error
  | .ok (.ok result) => .value result

/-- Evaluates a formula on the session's source. -/
def evaluate [RandomSource σ] (session : Session σ) (formula : Formula) : Reply × Session σ :=
  match session with
  | ⟨source, layers, formulas⟩ =>
    let (outcome, play) := formula.evaluate (Variables.ofLayers layers).resolve (.start source)
    (.ofOutcome outcome, ⟨play.source, layers, formulas⟩)

/-- Evaluates the formula that a text is read as on the session's source. -/
def evaluateText [RandomSource σ] (session : Session σ) (text : String) : Reply × Session σ :=
  match session with
  | ⟨source, layers, formulas⟩ =>
    let (result, play) :=
      Formula.evaluateText text (Variables.ofLayers layers).resolve (.start source)
    let reply : Reply :=
      match result with
      | .error fault => .syntaxFault (.ofFault text fault)
      | .ok outcome => .ofOutcome outcome
    (reply, ⟨play.source, layers, formulas⟩)

def changeLayer (session : Session σ) (place : Nat) (change : Layer → Layer) : Reply × Session σ :=
  match session.layers[place]? with
  | none => (.missing "layer", session)
  | some layer =>
    let changed := change layer
    (.changed changed, ⟨session.source, session.layers.set place changed, session.formulas⟩)

def step [RandomSource σ] (session : Session σ) : Step → Reply × Session σ
  | .store name source =>
    match Formula.parse source with
    | .error fault => (.syntaxFault (.ofFault source fault), session)
    | .ok formula =>
      (.stored formula, ⟨session.source, session.layers, session.formulas.set name formula⟩)
  | .run name =>
    match session.formulas.get? name with
    | none => (.missing name, session)
    | some formula => session.evaluate formula
  | .evaluate source => session.evaluateText source
  | .set place name value => session.changeLayer place fun layer => layer.set name value
  | .erase place name => session.changeLayer place fun layer => layer.erase name
  | .resolve name => (.found (session.scope.resolve name), session)
  | .draw low high =>
    match session with
    | ⟨source, layers, formulas⟩ =>
      let (answer, next) := RandomSource.draw source low high
      let reply : Reply :=
        match answer with
        | .error failure => .drawFailure failure
        | .ok value => .value value
      (reply, ⟨next, layers, formulas⟩)

/-- Takes steps in turn: the reply to each and the session after it. -/
def trace [RandomSource σ] (session : Session σ) : List Step → List (Reply × Session σ)
  | [] => []
  | first :: rest =>
    let (reply, next) := session.step first
    (reply, next) :: trace next rest

end Session

end DiceFormula
