/-
# Sources of random draws

A source answers a request for a number between two bounds and moves on to its
next state.  A request can fail; the state then comes back all the same.

Two sources for rehearsed games are defined here: one that always gives the same
number and one that replays a list.  Both keep the requests they have answered.
-/

import DiceFormula.Text.Digits

namespace DiceFormula

/-- Why a request for a draw was not answered. -/
inductive DrawFailure where
  /-- All values of a replayed list of the given length have been given out. -/
  | exhausted (total : Nat)
  /-- There is no number between the bounds. -/
  | emptyRange (low high : Int)
deriving DecidableEq

namespace DrawFailure

def message : DrawFailure → String
  | exhausted total => "Random sequence exhausted after " ++ total.repr ++ " draws"
  | emptyRange low high =>
    "empty range for randrange() (" ++ Text.intText low ++ ", " ++ Text.intText (high + 1) ++
      ", " ++ Text.intText (high + 1 - low) ++ ")"

end DrawFailure

/-- A state from which numbers between two bounds, both included, can be drawn. -/
class RandomSource (σ : Type) where
  /-- Draws a number between two bounds. -/
  draw : σ → (low high : Int) → Except DrawFailure Int × σ

/-- A source that gives the same number whatever is asked. -/
structure FixedSource where
  value : Int
  calls : Array (Int × Int)
deriving DecidableEq

namespace FixedSource

def start (value : Int) : FixedSource :=
  ⟨value, #[]⟩

/-- Gives the number and keeps the request. -/
def draw (source : FixedSource) (low high : Int) : Except DrawFailure Int × FixedSource :=
  (.ok source.value, ⟨source.value, source.calls.push (low, high)⟩)

instance : RandomSource FixedSource := ⟨draw⟩

end FixedSource

/-- A source that gives the values of a list in turn.  The place of the next value and
the requests that were answered are kept apart. -/
structure ReplaySource where
  values : Array Int
  place : Nat
  calls : Array (Int × Int)
deriving DecidableEq

namespace ReplaySource

def start (values : Array Int) : ReplaySource :=
  ⟨values, 0, #[]⟩

/-- The number of values that have not been given out. -/
def remaining (source : ReplaySource) : Nat :=
  source.values.size - source.place

/-- Gives the next value, whatever the bounds, as long as there is one. -/
def draw (source : ReplaySource) (low high : Int) : Except DrawFailure Int × ReplaySource :=
  match source with
  | ⟨values, place, calls⟩ =>
    if room : place < values.size then
      (.ok values[place], ⟨values, place + 1, calls.push (low, high)⟩)
    else (.error (.exhausted values.size), ⟨values, place, calls⟩)

instance : RandomSource ReplaySource := ⟨draw⟩

end ReplaySource

end DiceFormula
