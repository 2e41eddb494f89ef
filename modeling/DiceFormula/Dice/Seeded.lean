/-
# Seeded dice

A source backed by a generator of its own.  The same seed gives the same draws,
and a request for a number from an empty range is turned down without touching
the generator.
-/

import DiceFormula.Dice.Source
import DiceFormula.Dice.Twister

namespace DiceFormula

/-- A seed and the state of the generator started from it. -/
structure SeededSource where
  seed : Int
  generator : Twister
deriving DecidableEq

namespace SeededSource

def start (seed : Int) : SeededSource :=
  ⟨seed, .ofSeed seed⟩

/-- Draws a number between two bounds, all of them equally likely. -/
def draw (source : SeededSource) (low high : Int) : Except DrawFailure Int × SeededSource :=
  match source with
  | ⟨seed, generator⟩ =>
    if high < low then (.error (.emptyRange low high), ⟨seed, generator⟩)
    else
      let (offset, rest) := generator.below (high - low + 1).toNat
      (.ok (low + offset), ⟨seed, rest⟩)

instance : RandomSource SeededSource := ⟨draw⟩

end SeededSource

inductive AnySource where
  | fixed (source : FixedSource)
  | replay (source : ReplaySource)
  | seeded (source : SeededSource)
deriving DecidableEq

namespace AnySource

def draw (source : AnySource) (low high : Int) : Except DrawFailure Int × AnySource :=
  match source with
  | fixed source => (source.draw low high).map id fixed
  | replay source => (source.draw low high).map id replay
  | seeded source => (source.draw low high).map id seeded

instance : RandomSource AnySource := ⟨draw⟩

/-- The requests answered so far, for the sources that keep them. -/
def calls? : AnySource → Option (Array (Int × Int))
  | fixed source => some source.calls
  | replay source => some source.calls
  | seeded _ => none

/-- The number of values not given out, for a replayed list. -/
def remaining? : AnySource → Option Nat
  | replay source => some source.remaining
  | _ => none

end AnySource

end DiceFormula
