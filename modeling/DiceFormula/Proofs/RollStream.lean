/-
# Repeated rolls are one stream

A roll that is repeated evaluates its formula again and again with one source of dice, each
time going on with the source as the time before left it.  What the evaluations come to is
therefore a stream that is settled by the formula, the look-up of its names and the seed;
how often the roll is repeated only says how far into the stream it goes.

The values are printed, one on each line, up to the first evaluation without a value.  Its
failure is reported, and it is the last evaluation that is made.  So of two rolls that
differ only in the number of repetitions, the longer prints what the shorter prints and goes
on behind it, and if the shorter comes to a failure they are the same.
-/

import DiceFormula.Proofs.FailureMessages
import DiceFormula.Proofs.SettingsFaults
import Mathlib.Logic.Function.Iterate

namespace DiceFormula

/-- What is rolled, apart from how often: a formula, the values of its names, the seed of the
dice, and the width of the display for reports. -/
structure Rolling where
  formula : Formula
  lookup : String → Option Int
  seed : Int
  width : Nat

namespace Rolling

/-- The source that an evaluation leaves behind. -/
def goOn (rolling : Rolling) (source : SeededSource) : SeededSource :=
  (rolling.formula.evaluate rolling.lookup (.start source)).2.source

/-- The source that each evaluation of the stream starts from. -/
def sourceAt (rolling : Rolling) (place : Nat) : SeededSource :=
  rolling.goOn^[place] (.start rolling.seed)

/-- What each evaluation of the stream comes to. -/
def outcome (rolling : Rolling) (place : Nat) : Except DrawFailure (Except EvalError Int) :=
  (rolling.formula.evaluate rolling.lookup (.start (rolling.sourceAt place))).1

/-- The stream begins with these values. -/
def Gives (rolling : Rolling) (values : List Int) : Prop :=
  ∀ place (within : place < values.length), rolling.outcome place = .ok (.ok values[place])

/-- Repeated so many times, the roll prints these values in decimal, each on its own line, makes
so many evaluations and has this result. -/
inductive Ends (rolling : Rolling) :
    (times : Nat) → (values : List Int) → (evaluations : Nat) → ProgramResult → Prop where
  /-- All evaluations come to values. -/
  | all {values : List Int} (gives : rolling.Gives values) :
      Ends rolling values.length values values.length ⟨values.map toString, 0, none⟩
  /-- An evaluation fails, and it is the last. -/
  | failed {times : Nat} {values : List Int} {error : EvalError} (gives : rolling.Gives values)
      (within : values.length < times)
      (fails : rolling.outcome values.length = .ok (.error error)) :
      Ends rolling times values (values.length + 1)
        ⟨values.map toString ++ Program.report rolling.width "Evaluation failed" error.message,
          1, none⟩

variable {rolling : Rolling} {values : List Int} {error : EvalError} {place : Nat}

/-- Seeded dice are always answered, so every evaluation comes to something. -/
theorem exists_outcome (rolling : Rolling) (place : Nat) :
    ∃ outcome, rolling.outcome place = .ok outcome := by
  obtain ⟨values, next, answers⟩ :=
    (rolling.sourceAt place).answersRanges rolling.formula.events
      rolling.formula.nonemptyRanges_events
  exact Formula.exists_evaluate_iff.2 ⟨values, next, answers⟩

/-- A failure has no names but such as formulas have. -/
theorem isNamed (fails : rolling.outcome place = .ok (.error error)) : error.IsNamed := by
  rcases evaluated : rolling.formula.evaluate rolling.lookup
    (.start (rolling.sourceAt place)) with ⟨found, round⟩
  rw [outcome, evaluated] at fails
  obtain rfl : found = .ok (.error error) := fails
  exact Named.of_evaluate evaluated error rfl

/-- The report of a failure shows its message. -/
theorem shows_failure (fails : rolling.outcome place = .ok (.error error)) :
    Text.Shows rolling.width ("Evaluation failed: " ++ error.message)
      (Program.report rolling.width "Evaluation failed" error.message) := by
  have what : Text.IsPlain "Evaluation failed" := List.all_eq_true.1 rfl
  exact Program.shows_report what (EvalError.isPlain_message (isNamed fails)) rolling.width

theorem sourceAt_succ (rolling : Rolling) (place : Nat) :
    rolling.sourceAt (place + 1) = rolling.goOn (rolling.sourceAt place) :=
  Function.iterate_succ_apply' _ _ _

/-- The stream begins with one value more if the next evaluation comes to it. -/
theorem Gives.append (gives : rolling.Gives values) {value : Int}
    (next : rolling.outcome values.length = .ok (.ok value)) :
    rolling.Gives (values ++ [value]) := by
  intro place within
  by_cases before : place < values.length
  · rw [List.getElem_append_left before]
    exact gives place before
  · have last : place = values.length := by
      rw [List.length_append, List.length_singleton] at within
      omega
    subst last
    rw [List.getElem_concat_length rfl]
    exact next

/-- The values in front of a failure stop at it. -/
theorem Gives.length_le (gives : rolling.Gives values)
    (fails : rolling.outcome place = .ok (.error error)) : values.length ≤ place := by
  by_contra within
  have value := gives place (Nat.lt_of_not_le within)
  rw [fails] at value
  cases value

/-- Of two beginnings of the stream the shorter is the beginning of the longer. -/
theorem Gives.isPrefix (gives : rolling.Gives values) {others : List Int}
    (givesOthers : rolling.Gives others) (shorter : values.length ≤ others.length) :
    values <+: others := by
  rw [List.prefix_iff_getElem]
  use shorter
  intro place within
  have same := (gives place within).symm.trans (givesOthers place (within.trans_le shorter))
  exact Except.ok.inj (Except.ok.inj same)

namespace Ends

variable {times evaluations : Nat} {result : ProgramResult}

theorem gives (ends : rolling.Ends times values evaluations result) : rolling.Gives values := by
  cases ends with
  | all gives => exact gives
  | failed gives within fails => exact gives

/-- A roll has the exit code zero exactly if all its evaluations come to values, and then it
prints them all. -/
theorem exitCode_eq_zero_iff (ends : rolling.Ends times values evaluations result) :
    (result.exitCode = 0 ∧ result.lines = values.map toString ∧ values.length = times) ↔
      ∀ place < times, ∃ value, rolling.outcome place = .ok (.ok value) := by
  cases ends with
  | all gives =>
      constructor
      · intro _ place within
        exact ⟨_, gives place within⟩
      · intro _
        exact ⟨rfl, rfl, rfl⟩
  | failed gives within fails =>
      constructor
      · intro same
        cases same.1
      · intro all
        obtain ⟨value, same⟩ := all values.length within
        rw [fails] at same
        cases same

variable {fewer fewerEvaluations : Nat} {fewerValues : List Int} {fewerResult : ProgramResult}

/-- With fewer repetitions a roll prints the same up to where it stops. -/
theorem of_fewer (ends : rolling.Ends times values evaluations result)
    (fewerEnds : rolling.Ends fewer fewerValues fewerEvaluations fewerResult)
    (ordered : fewer ≤ times) :
    fewerValues <+: values ∧
    (result.exitCode = 0 → fewerResult.exitCode = 0) ∧
    ∀ place < fewer, ∀ error, rolling.outcome place = .ok (.error error) →
      fewerResult = result := by
  cases fewerEnds with
  | all fewerGives =>
      refine ⟨fewerGives.isPrefix ends.gives ?_, fun _ => rfl, ?_⟩
      · cases ends with
        | all gives => exact ordered
        | failed gives within fails => exact fewerGives.length_le fails
      · intro place within error fails
        exact absurd within (Nat.not_lt.2 (fewerGives.length_le fails))
  | failed fewerGives fewerWithin fewerFails =>
      cases ends with
      | all gives =>
          have shorter := gives.length_le fewerFails
          omega
      | failed gives within fails =>
          -- Either failure is the first of the stream.
          have sameLength := Nat.le_antisymm (gives.length_le fewerFails)
            (fewerGives.length_le fails)
          have isPrefix := fewerGives.isPrefix gives (Nat.le_of_eq sameLength.symm)
          obtain rfl := isPrefix.eq_of_length sameLength.symm
          rw [fails] at fewerFails
          cases fewerFails
          exact ⟨List.prefix_rfl, id, fun _ _ _ _ => rfl⟩

end Ends

end Rolling

namespace Program

section Recorded

variable {σ : Type} [RandomSource σ]

/-- Rolls a number of times and keeps the source that each evaluation starts from, the latest
first. -/
def rollTimesRecorded (width : Nat) (formula : Formula) (lookup : String → Option Int) :
    Nat → (printed : List String) → (made : List σ) → σ →
      Except BreakOff ProgramResult × List σ
  | 0, printed, made, _ => (.ok (success printed.reverse), made)
  | times + 1, printed, made, source =>
    match formula.evaluate lookup (.start source) with
    | (.error failure, _) => (.error (.draw failure), source :: made)
    | (.ok (.error error), _) =>
      (.ok (failure (printed.reverse ++ report width "Evaluation failed" error.message)),
        source :: made)
    | (.ok (.ok value), play) =>
      rollTimesRecorded width formula lookup times (Text.intText value :: printed)
        (source :: made) play.source

/-- Keeping a record changes nothing about the result. -/
theorem rollTimesRecorded_fst (width : Nat) (formula : Formula) (lookup : String → Option Int)
    (times : Nat) (printed : List String) (made : List σ) (source : σ) :
    (rollTimesRecorded width formula lookup times printed made source).1 =
      rollTimes width formula lookup times printed source := by
  induction times generalizing printed made source with
  | zero => rfl
  | succ times ih =>
      rw [rollTimesRecorded, rollTimes]
      rcases formula.evaluate lookup (.start source) with ⟨outcome, round⟩
      cases outcome with
      | error failure => rfl
      | ok outcome =>
          cases outcome with
          | error error => rfl
          | ok value => exact ih _ _ _

end Recorded

/-- The loop writes each value in decimal. -/
theorem intText_eq_toString : Text.intText = toString :=
  funext Text.intText_eq_toString

/-- From any place in the stream up to which there were values, the loop prints the values
that follow and stops at the first failure. -/
theorem exists_ends_from {rolling : Rolling} {values : List Int} (gives : rolling.Gives values)
    (times : Nat) :
    ∃ all evaluations result, rolling.Ends (values.length + times) all evaluations result ∧
      rollTimesRecorded rolling.width rolling.formula rolling.lookup times
          (values.map Text.intText).reverse
          ((List.range values.length).map rolling.sourceAt).reverse
          (rolling.sourceAt values.length) =
        (.ok result, ((List.range evaluations).map rolling.sourceAt).reverse) := by
  induction times generalizing values with
  | zero =>
      refine ⟨values, values.length, _, .all gives, ?_⟩
      rw [rollTimesRecorded, List.reverse_reverse, intText_eq_toString]
      rfl
  | succ times ih =>
      have made : rolling.sourceAt values.length ::
          ((List.range values.length).map rolling.sourceAt).reverse =
          ((List.range (values.length + 1)).map rolling.sourceAt).reverse := by
        rw [List.range_succ, List.map_append, List.reverse_append]
        rfl
      obtain ⟨outcome, comesTo⟩ := rolling.exists_outcome values.length
      rcases evaluated : rolling.formula.evaluate rolling.lookup
        (.start (rolling.sourceAt values.length)) with ⟨found, round⟩
      have foundIs : found = .ok outcome := by
        rw [← comesTo, Rolling.outcome, evaluated]
      subst foundIs
      rw [rollTimesRecorded, evaluated, made]
      cases outcome with
      | error error =>
          refine ⟨values, values.length + 1, _, .failed gives (by omega) comesTo, ?_⟩
          simp only [List.reverse_reverse, intText_eq_toString]
          rfl
      | ok value =>
          have source : round.source = rolling.sourceAt (values.length + 1) := by
            rw [Rolling.sourceAt_succ, Rolling.goOn, evaluated]
          obtain ⟨all, evaluations, result, ends, rolled⟩ := ih (gives.append comesTo)
          refine ⟨all, evaluations, result, ?_, ?_⟩
          · rw [List.length_append, List.length_singleton] at ends
            rwa [show values.length + (times + 1) = values.length + 1 + times by omega]
          · simpa [source] using rolled

/-- A command line that asks for a roll repeated so many times.  The formula is accepted, the
assignments and the settings can be used, and the command line, the environment or the
settings file says which seed to take. -/
inductive AsksFor (context : ProgramContext) (arguments : List String) : Rolling → Nat → Prop where
  | roll {source : String} {options : RollOptions} {formula : Formula} {assigned : Table Int}
      {settings : Settings} {seed : Int}
      (asked : Request.read context.surroundings.look arguments = .ok (.roll source options))
      (accepted : Formula.parse source = .ok formula)
      (assignable : Assignment.readAll options.assignments = .ok assigned)
      (resolved : (Settings.resolve context.surroundings options.settingsFile).1 = .ok settings)
      (seeded : (options.seed <|> settings.seed) = some seed) :
      AsksFor context arguments ⟨formula, rollLookup settings assigned, seed, context.columns⟩
        (options.times.getD settings.times)

variable {context other : ProgramContext} {arguments otherArguments : List String}
  {rolling : Rolling} {times fewer : Nat}

/-- The program then goes through the loop. -/
theorem AsksFor.run_eq (asks : AsksFor context arguments rolling times) :
    run context arguments =
      rollTimes rolling.width rolling.formula rolling.lookup times [] (rolling.sourceAt 0) := by
  cases asks with
  | roll asked accepted assignable resolved seeded =>
      rw [run_of_roll asked, runRoll_eq_rollWith accepted assignable resolved, rollWith, seeded]
      rfl

/-- The program ends as the stream says, and it makes the evaluations that it says. -/
theorem AsksFor.exists_ends (asks : AsksFor context arguments rolling times) :
    ∃ values evaluations result, run context arguments = .ok result ∧
      rolling.Ends times values evaluations result ∧
      rollTimesRecorded rolling.width rolling.formula rolling.lookup times [] []
          (rolling.sourceAt 0) =
        (run context arguments, ((List.range evaluations).map rolling.sourceAt).reverse) := by
  have nothing : rolling.Gives [] := fun place within => absurd within (Nat.not_lt_zero place)
  obtain ⟨values, evaluations, result, ends, rolled⟩ := exists_ends_from nothing times
  rw [List.length_nil, Nat.zero_add] at ends
  have ran : run context arguments = .ok result := by
    rw [asks.run_eq, ← rollTimesRecorded_fst _ _ _ _ _ [] _]
    exact congrArg Prod.fst rolled
  refine ⟨values, evaluations, result, ran, ends, ?_⟩
  rw [ran]
  exact rolled

/-- A repeated roll prints the values of one stream of evaluations in decimal, one on each line,
up to the first that fails.  It has the exit code zero exactly if there is none among so many, and
otherwise it reports the first, evaluates nothing more and has the exit code one.  The report is
one line with the message of the failure if that fits the display, and otherwise the same text
broken to its width; failures that are not the same have different messages.  A roll of
the same with fewer repetitions prints the first of these values, it has the exit code zero
if the longer has, and if it comes to a failure both are the same. -/
theorem run_roll_stream (asks : AsksFor context arguments rolling times)
    (otherAsks : AsksFor other otherArguments rolling fewer) (ordered : fewer ≤ times) :
    (∀ place, ∃ outcome, rolling.outcome place = .ok outcome) ∧
    (∀ place error, rolling.outcome place = .ok (.error error) →
      Text.Shows rolling.width ("Evaluation failed: " ++ error.message)
        (report rolling.width "Evaluation failed" error.message) ∧
      ∀ otherPlace otherError, rolling.outcome otherPlace = .ok (.error otherError) →
        otherError.message = error.message → otherError = error) ∧
    ∃ values evaluations result fewerValues fewerEvaluations fewerResult,
      run context arguments = .ok result ∧
      rolling.Ends times values evaluations result ∧
      rollTimesRecorded rolling.width rolling.formula rolling.lookup times [] []
          (rolling.sourceAt 0) =
        (run context arguments, ((List.range evaluations).map rolling.sourceAt).reverse) ∧
      ((result.exitCode = 0 ∧ result.lines = values.map toString ∧ values.length = times) ↔
        ∀ place < times, ∃ value, rolling.outcome place = .ok (.ok value)) ∧
      run other otherArguments = .ok fewerResult ∧
      rolling.Ends fewer fewerValues fewerEvaluations fewerResult ∧
      fewerValues <+: values ∧
      (result.exitCode = 0 → fewerResult.exitCode = 0) ∧
      ∀ place < fewer, ∀ error, rolling.outcome place = .ok (.error error) →
        fewerResult = result := by
  obtain ⟨values, evaluations, result, ran, ends, recorded⟩ := asks.exists_ends
  obtain ⟨fewerValues, fewerEvaluations, fewerResult, otherRan, otherEnds, -⟩ :=
    otherAsks.exists_ends
  refine ⟨rolling.exists_outcome, fun place error fails => ?_, values, evaluations, result,
    fewerValues, fewerEvaluations, fewerResult, ran, ends, recorded, ends.exitCode_eq_zero_iff,
    otherRan, otherEnds, ends.of_fewer otherEnds ordered⟩
  refine ⟨Rolling.shows_failure fails, fun otherPlace otherError otherFails same => ?_⟩
  exact EvalError.eq_of_message (Rolling.isNamed otherFails) (Rolling.isNamed fails) same

/-- Five rolls of which the third exceeds the range of values, with a seed on the command line,
and two with the same seed in the environment. -/
theorem run_roll_stream_overflowing :
    let x : Name := ⟨['x'], by simp, List.forall_mem_singleton.2 rfl⟩
    let assigned : Table Int := ⟨[("x", 9223372036854775800)], by decide⟩
    let rolling : Rolling :=
      ⟨⟨.roll 2 6, [(.add, .identifier x)]⟩, rollLookup .default assigned, 2, 80⟩
    let context : ProgramContext := ⟨⟨"", fun _ => .missing, none⟩, 80, 0⟩
    let other : ProgramContext := ⟨⟨"", fun _ => .missing, some " 2 "⟩, 80, 3⟩
    let arguments := ["roll", "2d6 + x", "-V", "x=9223372036854775800", "-n", "5", "-s", "2"]
    let otherArguments := ["roll", "2d6 + x", "-V", "x=9223372036854775800", "-n", "2"]
    AsksFor context arguments rolling 5 ∧ AsksFor other otherArguments rolling 2 ∧
    ∃ values evaluations result fewerValues fewerEvaluations fewerResult,
      run context arguments = .ok result ∧ rolling.Ends 5 values evaluations result ∧
      run other otherArguments = .ok fewerResult ∧
      rolling.Ends 2 fewerValues fewerEvaluations fewerResult ∧ fewerValues <+: values := by
  intro x assigned rolling context other arguments otherArguments
  have accepted : Formula.parse "2d6 + x" = .ok rolling.formula := by
    decide +kernel
  have assignable : Assignment.readAll ["x=9223372036854775800"] = .ok assigned := by
    decide +kernel
  have resolved : (Settings.resolve context.surroundings none).1 = .ok .default := by
    apply Settings.eq_ok_of_toOption
    decide +kernel
  let settings : Settings := ⟨some 2, 1, .empty, Nat.one_pos⟩
  have otherResolved : (Settings.resolve other.surroundings none).1 = .ok settings := by
    apply Settings.eq_ok_of_toOption
    decide +kernel
  let options : RollOptions := ⟨["x=9223372036854775800"], some 2, some 5, none⟩
  let otherOptions : RollOptions := ⟨["x=9223372036854775800"], none, some 2, none⟩
  have asks : AsksFor context arguments rolling 5 :=
    @AsksFor.roll _ _ _ options _ _ _ 2 rfl accepted assignable resolved rfl
  have otherAsks : AsksFor other otherArguments rolling 2 :=
    @AsksFor.roll _ _ _ otherOptions _ _ settings 2 rfl accepted assignable otherResolved rfl
  obtain ⟨-, -, values, evaluations, result, fewerValues, fewerEvaluations, fewerResult, ran, ends,
    -, -, otherRan, otherEnds, isPrefix, -, -⟩ := run_roll_stream asks otherAsks (by decide)
  exact ⟨asks, otherAsks, values, evaluations, result, fewerValues, fewerEvaluations, fewerResult,
    ran, ends, otherRan, otherEnds, isPrefix⟩

/-- Nothing but the report is printed if the first of the evaluations fails. -/
example : (run ⟨⟨"", fun _ => .missing, none⟩, 80, 0⟩ ["roll", "7 + 1 / 0", "-n", "3"]).toOption =
    some ⟨["Evaluation failed: Division by zero (8 / 0)"], 1, none⟩ := by
  decide +kernel

end Program

end DiceFormula
