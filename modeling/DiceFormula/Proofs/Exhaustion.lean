/-
# When a replayed list runs out

How many values an evaluation takes from a replayed list can be told from the formula: one
for every die of its rolls with faces.  If the list has that many left the evaluation comes
to something and leaves the rest.  If it has fewer, there is one roll that takes the last
value and asks for another: the evaluation breaks off at that request, whatever has gone
wrong before it, and nothing behind that roll is asked for.

The list answers requests as long as they ask for no more than is left, and dice that ask
for more are refused behind the last value; the roll that runs dry is found by counting.
-/

import DiceFormula.Proofs.BreakingOff
import DiceFormula.Proofs.ReplayRuns

namespace DiceFormula

/-- The number of dice that are drawn for a term.  Dice without faces are not drawn. -/
def Term.dice : Term → Nat
  | .roll count faces => if faces < 1 then 0 else count
  | _ => 0

/-- The bounds of the dice that are drawn for a term, one after the other. -/
def Term.diceBounds : Term → List (Int × Int)
  | .roll count faces => if faces < 1 then [] else List.replicate count (1, faces)
  | _ => []

/-- The number of dice that are drawn for some terms. -/
def diceOf (terms : List Term) : Nat :=
  (terms.map Term.dice).sum

/-- The number of dice that are drawn for a formula. -/
def Formula.dice (formula : Formula) : Nat :=
  diceOf formula.terms

/-- The bounds between which an event asks for a number. -/
def Event.bounds? : Event → Option (Int × Int)
  | .lookup _ => none
  | .draw low high => some (low, high)

/-- The draws among some events, each as the bounds it asks for. -/
def drawsOf (events : List Event) : List (Int × Int) :=
  events.filterMap Event.bounds?

theorem drawsOf_dice (count : Nat) (faces : Int) :
    drawsOf (List.replicate count (.draw 1 faces)) = List.replicate count (1, faces) := by
  induction count with
  | zero => rfl
  | succ count ih =>
      rw [List.replicate_succ, List.replicate_succ, ← ih]
      rfl

theorem drawsOf_events (term : Term) : drawsOf term.events = term.diceBounds := by
  cases term with
  | literal value => rfl
  | identifier name => rfl
  | roll count faces =>
      rw [Term.events, Term.diceBounds]
      split
      · rfl
      · exact drawsOf_dice count faces

/-- The terms draw their dice one after the other. -/
theorem drawsOf_flatMap_events (terms : List Term) :
    drawsOf (terms.flatMap Term.events) = terms.flatMap Term.diceBounds := by
  rw [drawsOf, List.filterMap_flatMap]
  exact congrArg terms.flatMap (funext drawsOf_events)

theorem Term.length_diceBounds (term : Term) : term.diceBounds.length = term.dice := by
  cases term with
  | literal value => rfl
  | identifier name => rfl
  | roll count faces =>
      rw [diceBounds, dice]
      split
      · rfl
      · exact List.length_replicate

/-- As many draws are asked for as there are dice. -/
theorem length_drawsOf_flatMap_events (terms : List Term) :
    (drawsOf (terms.flatMap Term.events)).length = diceOf terms := by
  rw [drawsOf_flatMap_events, List.length_flatMap, diceOf]
  simp only [Term.length_diceBounds]

/-- Where terms have more dice than values are left, there is a first roll that asks for
more than is left for it. -/
theorem exists_dry_roll {terms : List Term} {left : Nat} (short : left < diceOf terms) :
    ∃ before count faces later, terms = before ++ .roll count faces :: later ∧ 1 ≤ faces ∧
      diceOf before ≤ left ∧ left < diceOf before + count := by
  induction terms generalizing left with
  | nil => exact absurd short (Nat.not_lt_zero left)
  | cons term terms ih =>
      have split : diceOf (term :: terms) = term.dice + diceOf terms := List.sum_cons
      by_cases dry : left < term.dice
      · -- A term with dice is a roll with faces.
        cases term with
        | literal value => exact absurd dry (Nat.not_lt_zero left)
        | identifier name => exact absurd dry (Nat.not_lt_zero left)
        | roll count faces =>
            by_cases faceless : faces < 1
            · rw [Term.dice, if_pos faceless] at dry
              exact absurd dry (Nat.not_lt_zero left)
            · rw [Term.dice, if_neg faceless] at dry
              refine ⟨[], count, faces, terms, rfl, Int.not_lt.1 faceless, Nat.zero_le left, ?_⟩
              rwa [show diceOf [] = 0 from rfl, Nat.zero_add]
      · have behind : left - term.dice < diceOf terms := by omega
        obtain ⟨before, count, faces, later, rfl, hasFaces, enough, dry⟩ := ih behind
        have more : diceOf (term :: before) = term.dice + diceOf before := List.sum_cons
        exact ⟨term :: before, count, faces, later, rfl, hasFaces, by omega, by omega⟩

section Sources

variable {σ : Type} [RandomSource σ]

/-- Behind answered requests the first that is refused ends the whole. -/
theorem Answers.refuses_append {source between next : σ} {first second made : List Event}
    {given : List Int} {failure : DrawFailure} (answers : Answers source first given between)
    (refuses : Refuses between second made failure next) :
    Refuses source (first ++ second) (first ++ made) failure next := by
  induction answers with
  | nothing => exact refuses
  | lookup rest ih => exact .lookup (ih refuses)
  | draw answer rest ih => exact .answered answer (ih refuses)

/-- What comes behind a request that is refused is not asked for. -/
theorem Refuses.append {source next : σ} {first made : List Event} {failure : DrawFailure}
    (refuses : Refuses source first made failure next) (second : List Event) :
    Refuses source (first ++ second) made failure next := by
  induction refuses with
  | lookup later ih => exact .lookup ih
  | answered answer later ih => exact .answered answer ih
  | refused answer => exact .refused answer

end Sources

namespace ReplaySource

variable {values : Array Int}

/-- A list answers requests that do not ask for more values than it has left. -/
theorem exists_answers {events : List Event} {place : Nat}
    (enough : (drawsOf events).length ≤ values.size - place) (calls : Array (Int × Int)) :
    ∃ given, Answers (⟨values, place, calls⟩ : ReplaySource) events given
      ⟨values, place + (drawsOf events).length, calls ++ (drawsOf events).toArray⟩ := by
  induction events generalizing place calls with
  | nil =>
      have nothing : Answers (⟨values, place, calls⟩ : ReplaySource) [] [] _ := .nothing
      exact ⟨[], by simpa [drawsOf] using nothing⟩
  | cons event rest ih =>
      cases event with
      | lookup name =>
          obtain ⟨given, answers⟩ := ih enough calls
          exact ⟨given, .lookup answers⟩
      | draw low high =>
          have draws : drawsOf (.draw low high :: rest) = (low, high) :: drawsOf rest := rfl
          rw [draws, List.length_cons] at enough ⊢
          have room : place < values.size := by omega
          have enoughLater : (drawsOf rest).length ≤ values.size - (place + 1) := by omega
          have place_eq : place + ((drawsOf rest).length + 1) =
              place + 1 + (drawsOf rest).length := by
            omega
          obtain ⟨given, answers⟩ := ih enoughLater (calls.push (low, high))
          refine ⟨values[place] :: given, .draw (draw_of_lt room calls low high) ?_⟩
          rw [place_eq, ← List.push_append_toArray]
          exact answers

/-- Dice that ask for more values than are left take them all and are refused another. -/
theorem refuses_dice {left count place : Nat} (size : values.size - place = left)
    (short : left < count) (faces : Int) (calls : Array (Int × Int)) :
    Refuses (⟨values, place, calls⟩ : ReplaySource)
      (List.replicate count (.draw 1 faces)) (List.replicate (left + 1) (.draw 1 faces))
      (.exhausted values.size)
      ⟨values, place + left, calls ++ (drawsOf (List.replicate left (.draw 1 faces))).toArray⟩ := by
  induction left generalizing count place calls with
  | zero =>
      cases count with
      | zero => exact absurd short (Nat.lt_irrefl 0)
      | succ count =>
          have used : values.size ≤ place := by omega
          have refused : Refuses (⟨values, place, calls⟩ : ReplaySource)
              (.draw 1 faces :: List.replicate count (.draw 1 faces)) _ _ _ :=
            .refused (draw_of_ge used calls 1 faces)
          simpa [drawsOf, List.replicate_succ] using refused
  | succ left ih =>
      cases count with
      | zero => exact absurd short (Nat.not_lt_zero (left + 1))
      | succ count =>
          have room : place < values.size := by omega
          have place_eq : place + (left + 1) = place + 1 + left := by omega
          have draws : drawsOf (List.replicate (left + 1) (.draw 1 faces)) =
              (1, faces) :: drawsOf (List.replicate left (.draw 1 faces)) := rfl
          rw [place_eq, draws, ← List.push_append_toArray]
          apply Refuses.answered (draw_of_lt room calls 1 faces)
          exact ih (by omega) (Nat.lt_of_succ_lt_succ short) (calls.push (1, faces))

/-- Terms are asked for in turn up to the roll that runs dry, which takes what is left. -/
theorem refuses_dry_roll {before : List Term} {count place : Nat} {faces : Int}
    (hasFaces : 1 ≤ faces) (enough : diceOf before ≤ values.size - place)
    (dry : values.size - place < diceOf before + count) (later : List Term)
    (calls : Array (Int × Int)) :
    ∃ logged : Array (Int × Int),
      Refuses (⟨values, place, calls⟩ : ReplaySource)
        ((before ++ .roll count faces :: later).flatMap Term.events)
        (before.flatMap Term.events ++
          List.replicate (values.size - place - diceOf before + 1) (.draw 1 faces))
        (.exhausted values.size) ⟨values, place + (values.size - place), calls ++ logged⟩ ∧
      logged.size = values.size - place := by
  have dice := length_drawsOf_flatMap_events before
  obtain ⟨given, answers⟩ := exists_answers (dice.trans_le enough) calls
  rw [dice] at answers
  have left : values.size - (place + diceOf before) = values.size - place - diceOf before :=
    Nat.sub_add_eq _ _ _
  have short : values.size - place - diceOf before < count := by omega
  have refuses := refuses_dice left short faces
    (calls ++ (drawsOf (before.flatMap Term.events)).toArray)
  have whole := answers.refuses_append (refuses.append (later.flatMap Term.events))
  have split : (before ++ .roll count faces :: later).flatMap Term.events =
      before.flatMap Term.events ++
        (List.replicate count (.draw 1 faces) ++ later.flatMap Term.events) := by
    rw [List.flatMap_append, List.flatMap_cons, Term.events_roll hasFaces]
  have taken : place + diceOf before + (values.size - place - diceOf before) =
      place + (values.size - place) := by
    omega
  rw [Array.append_assoc] at whole
  rw [split, ← taken]
  refine ⟨_, whole, ?_⟩
  rw [Array.size_append, List.size_toArray, List.size_toArray, dice, drawsOf_dice,
    List.length_replicate]
  exact Nat.add_sub_of_le enough

end ReplaySource

namespace Formula

variable {ρ : Type} [Resolver ρ]

/-- What an evaluation takes from a replayed list, and where it finds the list used up. -/
theorem evaluate_replayed (formula : Formula) (resolver : ρ) (source : ReplaySource) :
    let result := formula.evaluate resolver (.start source)
    (formula.dice ≤ source.remaining →
      (∃ outcome, result.1 = .ok outcome) ∧
      result.2.source.remaining = source.remaining - formula.dice ∧
      ∃ logged, result.2.source.calls = source.calls ++ logged ∧ logged.size = formula.dice) ∧
    (source.remaining < formula.dice →
      result.1 = .error (.exhausted source.values.size) ∧
      result.2.source.remaining = 0 ∧
      (∃ logged, result.2.source.calls = source.calls ++ logged ∧
        logged.size = source.remaining) ∧
      ∃ before count faces later,
        formula.terms = before ++ .roll count faces :: later ∧ 1 ≤ faces ∧
        diceOf before ≤ source.remaining ∧ source.remaining < diceOf before + count ∧
        result.2.events = before.flatMap Term.events ++
          List.replicate (source.remaining - diceOf before + 1) (.draw 1 faces) ∧
        result.2.resolver = Resolver.after resolver (before.flatMap Term.events)) := by
  intro result
  obtain ⟨values, place, calls⟩ := source
  constructor
  · intro enough
    have dice : (drawsOf formula.events).length = formula.dice :=
      length_drawsOf_flatMap_events formula.terms
    obtain ⟨given, answers⟩ :=
      ReplaySource.exists_answers (dice.trans_le enough) calls
    obtain ⟨outcome, evaluated⟩ := formula.evaluate_round resolver (.start _) answers
    simp only [result, evaluated]
    refine ⟨⟨outcome, rfl⟩, ?_, ⟨(drawsOf formula.events).toArray, ?_, ?_⟩⟩
    · rw [dice]
      exact Nat.sub_add_eq _ _ _
    · rfl
    · rw [List.size_toArray, dice]
  · intro short
    obtain ⟨before, count, faces, later, split, hasFaces, enough, dry⟩ := exists_dry_roll short
    obtain ⟨logged, refuses, size⟩ :=
      ReplaySource.refuses_dry_roll hasFaces enough dry later calls
    rw [← split] at refuses
    have evaluated := evaluate_of_refuses refuses resolver []
    simp only [result, Play.start]
    rw [evaluated]
    refine ⟨rfl, ?_, ⟨logged, rfl, size⟩, before, count, faces, later, split, hasFaces, enough, dry,
      ?_, ?_⟩
    · show values.size - (place + (values.size - place)) = 0
      omega
    · simp [Play.events, ReplaySource.remaining]
    · rw [Resolver.after_append, Resolver.after_replicate_draw]

/-- The name is unknown, and the second die finds the list used up; nothing behind it is
asked for. -/
example :
    let x : Name := ⟨['x'], by simp, List.forall_mem_singleton.2 rfl⟩
    let formula : Formula := ⟨.identifier x, [(.add, .roll 2 6), (.div, .identifier x)]⟩
    let result := formula.evaluateWithin .standard (fun _ => none : String → Option Int)
      (.start (ReplaySource.start #[4]))
    result.1 = .ok (.error (.exhausted 1)) ∧ result.2.events = [.lookup x, .draw 1 6, .draw 1 6] := by
  exact ⟨rfl, rfl⟩

end Formula

end DiceFormula
