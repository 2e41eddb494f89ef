/-
# The Mersenne Twister

A pseudorandom generator of 32-bit words: 624 words of state that are renewed
all at once when they have been used up, and a tempering of each word on its way
out.  Wider and narrower numbers are put together from its words, low words
first; of a word that is wider than what is still needed the high bits are used.

State words are addressed cyclically, as the recurrences are usually written, so
no index can be out of range.
-/

namespace DiceFormula

def twisterSize : Nat := 624

/-- The generator's words and how many of them have been given out. -/
structure Twister where
  words : Vector UInt32 twisterSize
  used : Nat
deriving DecidableEq

namespace Twister

/-- A state word by its cyclic place. -/
def wordAt (words : Vector UInt32 twisterSize) (place : Nat) : UInt32 :=
  words.get ⟨place % twisterSize, Nat.mod_lt _ (by decide)⟩

/-- Replaces a state word by its cyclic place. -/
def setWord (words : Vector UInt32 twisterSize) (place : Nat) (word : UInt32) :
    Vector UInt32 twisterSize :=
  words.set (place % twisterSize) word (Nat.mod_lt _ (by decide))

/-- A word folded over itself, the ingredient of all initial recurrences. -/
def folded (word : UInt32) : UInt32 :=
  word ^^^ (word >>> 30)

/-- The initial words that belong to a 32-bit seed. -/
def ofWord (seed : UInt32) : Vector UInt32 twisterSize :=
  (List.range (twisterSize - 1)).foldl
    (fun words i =>
      setWord words (i + 1) (1812433253 * folded (wordAt words i) + (i + 1).toUInt32))
    (setWord (Vector.replicate twisterSize 0) 0 seed)

/-- Passes over the words in a cycle that leaves out place zero: place zero is
only ever a copy of the last word.  `mix` gives the new word at a place from the
number of the step, the place, the word there and the word before it. -/
def sweep (mix : Nat → Nat → UInt32 → UInt32 → UInt32) (steps start : Nat)
    (words : Vector UInt32 twisterSize) : Vector UInt32 twisterSize :=
  (List.range steps).foldl
    (fun words step =>
      let place := (start + step - 1) % (twisterSize - 1) + 1
      let words := setWord words place (mix step place (wordAt words place)
        (wordAt words (place - 1)))
      if place = twisterSize - 1 then setWord words 0 (wordAt words place) else words)
    words

/-- The initial words that belong to a key of 32-bit words. -/
def ofKey (key : Array UInt32) : Twister :=
  let steps := max twisterSize key.size
  let absorbed := sweep
    (fun step _ word before =>
      let turn := step % key.size
      (word ^^^ (folded before * 1664525)) + key.getD turn 0 + turn.toUInt32)
    steps 1 (ofWord 19650218)
  let stirred := sweep
    (fun _ place word before => (word ^^^ (folded before * 1566083941)) - place.toUInt32)
    (twisterSize - 1) (steps + 1) absorbed
  ⟨setWord stirred 0 0x80000000, twisterSize⟩

/-- The low 32-bit words of a number, the lowest first; zero has one word. -/
def keyOfNat (n : Nat) : Array UInt32 :=
  Array.ofFn (n := max 1 ((n.log2 + 32) / 32)) fun i => (n >>> (32 * i.val)).toUInt32

/-- The generator that belongs to an integer; the sign plays no part. -/
def ofSeed (seed : Int) : Twister :=
  ofKey (keyOfNat seed.natAbs)

/-- Renews all words from the old ones. -/
def renew (words : Vector UInt32 twisterSize) : Vector UInt32 twisterSize :=
  (List.range twisterSize).foldl
    (fun words i =>
      let joined := (wordAt words i &&& 0x80000000) ||| (wordAt words (i + 1) &&& 0x7fffffff)
      let twisted := wordAt words (i + 397) ^^^ (joined >>> 1)
      setWord words i (if joined &&& 1 = 0 then twisted else twisted ^^^ 0x9908b0df))
    words

/-- Spreads the bits of a state word over the word given out. -/
def temper (word : UInt32) : UInt32 :=
  let word := word ^^^ (word >>> 11)
  let word := word ^^^ ((word <<< 7) &&& 0x9d2c5680)
  let word := word ^^^ ((word <<< 15) &&& 0xefc60000)
  word ^^^ (word >>> 18)

def next (twister : Twister) : UInt32 × Twister :=
  match twister with
  | ⟨words, used⟩ =>
    if used < twisterSize then (temper (wordAt words used), ⟨words, used + 1⟩)
    else
      let renewed := renew words
      (temper (wordAt renewed 0), ⟨renewed, 1⟩)

def bits (width : Nat) (twister : Twister) : Nat × Twister :=
  if _wide : 32 < width then
    let (word, rest) := twister.next
    let (high, rest) := bits (width - 32) rest
    (word.toNat + high <<< 32, rest)
  else
    let (word, rest) := twister.next
    (word.toNat >>> (32 - width), rest)
termination_by width

/-- How many states there are of some words with so many values each and a count of those
given out. -/
def stateCount (values words : Nat) : Nat :=
  Nat.pow values words * (words + 1)

/-- How often a draw is repeated before the last number is reduced instead: as often as
the generator has states.  By then it has come round to a state it was in before, so a
draw that has found no number below the limit would never find one. -/
def patience : Nat :=
  stateCount UInt32.size twisterSize

/-- Draws numbers of a width until one is below the limit. -/
def drawBelow (limit width : Nat) : Nat → Twister → Nat × Twister
  | 0, twister =>
    let (value, rest) := twister.bits width
    (value % limit, rest)
  | attempts + 1, twister =>
    let (value, rest) := twister.bits width
    if value < limit then (value, rest) else drawBelow limit width attempts rest

/-- A number below a positive limit, all of them equally likely. -/
def below (limit : Nat) (twister : Twister) : Nat × Twister :=
  drawBelow limit (limit.log2 + 1) patience twister

/-- What is drawn below a limit is below it. -/
theorem below_lt {limit : Nat} (positive : 0 < limit) (twister : Twister) :
    (twister.below limit).1 < limit := by
  have attempt : ∀ attempts (twister : Twister),
      (drawBelow limit (limit.log2 + 1) attempts twister).1 < limit := by
    intro attempts
    induction attempts with
    | zero => intro twister; exact Nat.mod_lt _ positive
    | succ attempts ih =>
      intro twister
      simp only [drawBelow]
      split
      · assumption
      · exact ih _
  exact attempt _ _

end Twister

end DiceFormula
