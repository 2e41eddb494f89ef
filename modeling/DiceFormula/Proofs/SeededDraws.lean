/-
# Draws from a seeded source

To draw a number from a range, numbers of a width are drawn until one is smaller than the
range is long.  What is drawn depends on nothing but the state of the generator, and there
are finitely many states.  So the search can be given up once the generator must have come
round: what has not been found by then is never found, and giving up does not take the
place of any number that a search without end would find.

A request for a number from a range that holds any is therefore answered from that range,
in whatever state the generator is.  A request for a number from an empty range is turned
down and leaves the state alone, so a run goes on as if it had not been made.
-/

import DiceFormula.Dice.Seeded
import Mathlib.Data.Fintype.BigOperators
import Mathlib.Data.Fintype.Pigeonhole
import Mathlib.Logic.Function.Iterate

namespace DiceFormula

/-- A walk through finitely many places gets nowhere that it has not been to after as many
steps as there are places.  The places are told apart by a code as far as the walk goes. -/
theorem exists_iterate_eq {α γ : Type} [Fintype γ] {step : α → α} {kept : α → Prop}
    (keeps : ∀ place, kept place → kept (step place)) {code : α → γ}
    (tellsApart : ∀ place other, kept place → kept other → code place = code other → place = other)
    {start : α} (holds : kept start) (count : Nat) :
    ∃ fewer ≤ Fintype.card γ, step^[count] start = step^[fewer] start := by
  have keptAll : ∀ count, kept (step^[count] start) := by
    intro count
    induction count with
    | zero => exact holds
    | succ count ih =>
        rw [Function.iterate_succ_apply']
        exact keeps _ ih
  -- Among one place more than there are codes, two have the same code.
  have more : Fintype.card γ < Fintype.card (Fin (Fintype.card γ + 1)) := by
    rw [Fintype.card_fin]
    exact Nat.lt_succ_self _
  have comesRound : ∃ first second : Nat, first < second ∧ second ≤ Fintype.card γ ∧
      step^[first] start = step^[second] start := by
    obtain ⟨first, second, different, sameCode⟩ :=
      Fintype.exists_ne_map_eq_of_card_lt (fun n => code (step^[n.val] start)) more
    have same := tellsApart _ _ (keptAll first) (keptAll second) sameCode
    rcases lt_or_gt_of_ne (Fin.val_ne_of_ne different) with earlier | later
    · exact ⟨first, second, earlier, Nat.le_of_lt_succ second.isLt, same⟩
    · exact ⟨second, first, later, Nat.le_of_lt_succ first.isLt, same.symm⟩
  obtain ⟨first, second, earlier, within, same⟩ := comesRound
  induction count using Nat.strong_induction_on with
  | _ count ih =>
      by_cases few : count ≤ Fintype.card γ
      · exact ⟨count, few, rfl⟩
      · -- Leaving out one round leads to the same place.
        obtain ⟨fewer, small, shortcut⟩ := ih (count - second + first) (by omega)
        refine ⟨fewer, small, ?_⟩
        calc
          step^[count] start = step^[count - second] (step^[second] start) := by
            rw [← Function.iterate_add_apply, Nat.sub_add_cancel (by omega)]
          _ = step^[count - second + first] start := by
            rw [← same, Function.iterate_add_apply]
          _ = step^[fewer] start := shortcut

namespace Twister

/-- The states that the generator is in after giving out a word. -/
def Running (twister : Twister) : Prop :=
  1 ≤ twister.used ∧ twister.used ≤ twisterSize

theorem running_next (twister : Twister) : Running twister.next.2 := by
  obtain ⟨words, used⟩ := twister
  rw [next]
  by_cases room : used < twisterSize
  · rw [if_pos room]
    exact ⟨Nat.succ_pos used, room⟩
  · rw [if_neg room]
    exact ⟨Nat.le_refl 1, Nat.succ_le_of_lt (by decide : 0 < twisterSize)⟩

theorem running_bits (width : Nat) (twister : Twister) : Running (twister.bits width).2 := by
  induction width using Nat.strong_induction_on generalizing twister with
  | _ width ih =>
      have running := twister.running_next
      rw [bits]
      rcases given : twister.next with ⟨word, rest⟩
      rw [given] at running
      by_cases wide : 32 < width
      · have later := ih (width - 32) (by omega) rest
        rcases drawn : rest.bits (width - 32) with ⟨high, last⟩
        rw [drawn] at later
        simpa only [dif_pos wide, drawn] using later
      · simpa only [dif_neg wide] using running

/-- The words of a state and the place in them. -/
def code (twister : Twister) : (Fin twisterSize → Fin UInt32.size) × Fin twisterSize :=
  (fun place => (twister.words.get place).toFin,
    ⟨(twister.used - 1) % twisterSize, Nat.mod_lt _ (by decide)⟩)

/-- While words are given out, not all the states that are counted occur. -/
theorem card_codes_lt {values words : Nat} (positive : 0 < values) :
    Fintype.card ((Fin words → Fin values) × Fin words) < stateCount values words := by
  rw [Fintype.card_prod, Fintype.card_pi_const, Fintype.card_fin, Fintype.card_fin, stateCount,
    Nat.mul_succ]
  exact Nat.lt_add_of_pos_right (Nat.pow_pos positive)

theorem eq_of_code_eq {twister other : Twister} (running : Running twister)
    (otherRunning : Running other) (same : twister.code = other.code) : twister = other := by
  obtain ⟨words, used⟩ := twister
  obtain ⟨otherWords, otherUsed⟩ := other
  obtain ⟨sameWords, samePlace⟩ := Prod.mk.inj same
  have words_eq : words = otherWords := by
    ext place within
    have sameWord := congrFun sameWords ⟨place, within⟩
    exact congrArg UInt32.toNat (UInt32.toFin_inj.1 sameWord)
  have used_eq : used = otherUsed := by
    have placeEq : (used - 1) % twisterSize = (otherUsed - 1) % twisterSize :=
      congrArg Fin.val samePlace
    obtain ⟨positive, most⟩ := running
    obtain ⟨otherPositive, otherMost⟩ := otherRunning
    simp only at positive most otherPositive otherMost
    rw [Nat.mod_eq_of_lt (by omega), Nat.mod_eq_of_lt (by omega)] at placeEq
    omega
  rw [words_eq, used_eq]

section Search

variable {limit width attempts count : Nat} {twister rest : Twister} {value : Nat}

/-- A search for a number below a limit draws numbers of a width.  So many are refused, and
the next one is found. -/
inductive Finds (limit width : Nat) : (refused : Nat) → Twister → Nat → Twister → Prop where
  | found {twister : Twister} (small : (twister.bits width).1 < limit) :
      Finds limit width 0 twister (twister.bits width).1 (twister.bits width).2
  | refused {count : Nat} {twister rest : Twister} {value : Nat}
      (large : limit ≤ (twister.bits width).1)
      (later : Finds limit width count (twister.bits width).2 value rest) :
      Finds limit width (count + 1) twister value rest

/-- The state after drawing so many numbers of a width. -/
def after (width count : Nat) (twister : Twister) : Twister :=
  (fun twister => (twister.bits width).2)^[count] twister

theorem after_succ (width count : Nat) (twister : Twister) :
    after width (count + 1) twister = after width count (twister.bits width).2 :=
  Function.iterate_succ_apply _ _ _

/-- A search that is given enough attempts comes to its end. -/
theorem Finds.drawBelow_eq (finds : Finds limit width count twister value rest)
    (enough : count ≤ attempts) : drawBelow limit width attempts twister = (value, rest) := by
  induction finds generalizing attempts with
  | @found twister small =>
      cases attempts with
      | zero => simp only [drawBelow, Nat.mod_eq_of_lt small]
      | succ attempts => simp only [drawBelow, if_pos small]
  | @refused count twister rest value large later ih =>
      cases attempts with
      | zero => omega
      | succ attempts =>
          simp only [drawBelow, if_neg (Nat.not_lt.2 large)]
          exact ih (Nat.le_of_succ_le_succ enough)

theorem Finds.unique {other : Nat} {otherValue : Nat} {otherRest : Twister}
    (finds : Finds limit width count twister value rest)
    (otherFinds : Finds limit width other twister otherValue otherRest) :
    (value, rest) = (otherValue, otherRest) := by
  rw [← finds.drawBelow_eq (Nat.le_max_left count other),
    otherFinds.drawBelow_eq (Nat.le_max_right count other)]

theorem Finds.small_after (finds : Finds limit width count twister value rest) :
    ((after width count twister).bits width).1 < limit := by
  induction finds with
  | found small => exact small
  | refused large later ih =>
      rw [after_succ]
      exact ih

/-- If a number drawn later on is small enough, the search ends there at the latest. -/
theorem exists_finds (small : ((after width count twister).bits width).1 < limit) :
    ∃ refused ≤ count, ∃ value rest, Finds limit width refused twister value rest := by
  induction count generalizing twister with
  | zero => exact ⟨0, Nat.le_refl 0, _, _, .found small⟩
  | succ count ih =>
      by_cases now : (twister.bits width).1 < limit
      · exact ⟨0, Nat.zero_le _, _, _, .found now⟩
      · rw [after_succ] at small
        obtain ⟨refused, within, value, rest, finds⟩ := ih small
        exact ⟨refused + 1, Nat.succ_le_succ within, value, rest, .refused (Nat.not_lt.1 now) finds⟩

/-- While the attempts last, the generator gets into every state that it ever gets into. -/
theorem exists_after_eq (width count : Nat) (twister : Twister) :
    ∃ fewer ≤ patience, after width count twister = after width fewer twister := by
  cases count with
  | zero => exact ⟨0, Nat.zero_le _, rfl⟩
  | succ count =>
      have keeps (twister : Twister) (_ : Running twister) : Running (twister.bits width).2 :=
        twister.running_bits width
      obtain ⟨fewer, within, same⟩ :=
        exists_iterate_eq keeps (fun _ _ => eq_of_code_eq) (twister.running_bits width) count
      refine ⟨fewer + 1, Nat.succ_le_of_lt (within.trans_lt (card_codes_lt (by decide))), ?_⟩
      rw [after_succ, after_succ]
      exact same

/-- A search that comes to an end is carried to it: giving up after all attempts changes
nothing about what is found. -/
theorem Finds.below_eq (finds : Finds limit (limit.log2 + 1) count twister value rest) :
    twister.below limit = (value, rest) := by
  obtain ⟨fewer, within, same⟩ := exists_after_eq (limit.log2 + 1) count twister
  have small := finds.small_after
  rw [same] at small
  obtain ⟨refused, few, found, next, findsEarly⟩ := exists_finds small
  rw [finds.unique findsEarly]
  exact findsEarly.drawBelow_eq (few.trans within)

end Search

end Twister

/-- What a request for a number between two bounds should come to. -/
inductive Fulfils : Int × Int → Except DrawFailure Int → Prop where
  | drawn {low high value : Int} (least : low ≤ value) (greatest : value ≤ high) :
      Fulfils (low, high) (.ok value)
  | turnedDown {low high : Int} (nothing : high < low) :
      Fulfils (low, high) (.error (.emptyRange low high))

namespace SeededSource

/-- Makes requests one after the other: what they come to, and the source afterwards. -/
def drawAll (source : SeededSource) :
    List (Int × Int) → List (Except DrawFailure Int) × SeededSource
  | [] => ([], source)
  | (low, high) :: later =>
    match source.draw low high with
    | (outcome, next) =>
      match drawAll next later with
      | (outcomes, last) => (outcome :: outcomes, last)

theorem drawAll_append (source : SeededSource) (before after : List (Int × Int)) :
    source.drawAll (before ++ after) =
      ((source.drawAll before).1 ++ ((source.drawAll before).2.drawAll after).1,
        ((source.drawAll before).2.drawAll after).2) := by
  induction before generalizing source with
  | nil => rfl
  | cons request before ih => simp only [List.cons_append, drawAll, ih]

variable {low high : Int}

theorem draw_of_lt (nothing : high < low) (source : SeededSource) :
    source.draw low high = (.error (.emptyRange low high), source) := by
  rw [draw, if_pos nothing]

theorem draw_of_le (ordered : low ≤ high) (source : SeededSource) :
    source.draw low high =
      (.ok (low + (source.generator.below (high - low + 1).toNat).1),
        ⟨source.seed, (source.generator.below (high - low + 1).toNat).2⟩) := by
  rw [draw, if_neg (Int.not_lt.2 ordered)]

/-- In whatever state the generator is, a request is fulfilled. -/
theorem fulfils_draw (source : SeededSource) (low high : Int) :
    Fulfils (low, high) (source.draw low high).1 := by
  rcases Int.lt_or_le high low with nothing | ordered
  · rw [draw_of_lt nothing]
    exact .turnedDown nothing
  · rw [draw_of_le ordered]
    have below : (source.generator.below (high - low + 1).toNat).1 < (high - low + 1).toNat :=
      Twister.below_lt (by omega) source.generator
    exact .drawn (by omega) (by omega)

theorem fulfils_drawAll (source : SeededSource) (requests : List (Int × Int)) :
    List.Forall₂ Fulfils requests (source.drawAll requests).1 := by
  induction requests generalizing source with
  | nil => exact .nil
  | cons request later ih => exact .cons (source.fulfils_draw request.1 request.2) (ih _)

/-- Without the requests for numbers from empty ranges a run comes to the same. -/
theorem drawAll_filter (source : SeededSource) (requests : List (Int × Int)) :
    source.drawAll (requests.filter fun request => request.1 ≤ request.2) =
      ((source.drawAll requests).1.filter Except.isOk, (source.drawAll requests).2) := by
  induction requests generalizing source with
  | nil => rfl
  | cons request later ih =>
      obtain ⟨low, high⟩ := request
      rcases Int.lt_or_le high low with nothing | ordered
      · rw [List.filter_cons_of_neg (by simpa using nothing), ih, drawAll, draw_of_lt nothing]
        rfl
      · rw [List.filter_cons_of_pos (by simpa using ordered), drawAll, drawAll,
          draw_of_le ordered]
        simp only [ih]
        rfl

/-- In a run of requests to a seeded source, whatever its seed and however much was drawn from
it before, a request for a number from a range that holds any comes to a number of that range:
counted from the lower bound, the first number drawn that is small enough, if one ever is.  Any
other request is turned down and leaves the source as it is, and leaving those requests out
changes neither what the others come to nor the source at the end. -/
theorem drawAll_inRange_or_traceless (source : SeededSource) (requests : List (Int × Int)) :
    List.Forall₂ Fulfils requests (source.drawAll requests).1 ∧
    (∀ before low high later, requests = before ++ (low, high) :: later →
      let (outcomes, reached) := source.drawAll before
      (high < low → source.drawAll (before ++ [(low, high)]) =
        (outcomes ++ [.error (.emptyRange low high)], reached)) ∧
      (low ≤ high → ∀ refused offset rest,
        Twister.Finds (high - low + 1).toNat ((high - low + 1).toNat.log2 + 1) refused
          reached.generator offset rest →
        source.drawAll (before ++ [(low, high)]) =
          (outcomes ++ [.ok (low + offset)], ⟨reached.seed, rest⟩))) ∧
    source.drawAll (requests.filter fun request => request.1 ≤ request.2) =
      ((source.drawAll requests).1.filter Except.isOk, (source.drawAll requests).2) := by
  refine ⟨source.fulfils_drawAll requests, ?_, source.drawAll_filter requests⟩
  intro before low high later _
  constructor
  · intro nothing
    rw [drawAll_append, drawAll, draw_of_lt nothing]
    rfl
  · intro ordered refused offset rest finds
    rw [drawAll_append, drawAll, draw_of_le ordered, finds.below_eq]
    rfl

end SeededSource

end DiceFormula
