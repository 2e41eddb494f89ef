/-
# What overrides what

A roll takes its seed, the number of its repetitions and the values of its names from more
than one place.  The command line comes first, then the environment, which knows a seed
only, and the settings file comes last.  The first place that says anything settles the
matter, be it a zero, and whatever stands behind it is overridden.

So two rolls of one formula come out alike as soon as for everything they need the first
places that say something say the same.  Names that the formula does not mention are not
needed, and no seed is needed where nothing is drawn.  The environment says nothing unless
it spells an integer.
-/

import DiceFormula.Proofs.SettingsFaults
import DiceFormula.Proofs.TwoRuns

namespace DiceFormula

/-- Of two lists of places the first place that says anything says the same in both.  Behind
it they may differ. -/
inductive Agree {α : Type} : (places others : List (Option α)) → Prop where
  | nothing : Agree [] []
  | settled (value : α) (overridden otherOverridden : List (Option α)) :
      Agree (some value :: overridden) (some value :: otherOverridden)
  | silent {later otherLater : List (Option α)} (agree : Agree later otherLater) :
      Agree (none :: later) (none :: otherLater)

/-- What the first place says that says anything. -/
def firstSaid {α : Type} (places : List (Option α)) : Option α :=
  places.findSome? id

/-- Places that agree settle the same. -/
theorem Agree.firstSaid_eq {α : Type} {places others : List (Option α)}
    (agree : Agree places others) : firstSaid places = firstSaid others := by
  induction agree with
  | nothing => rfl
  | settled value overridden otherOverridden => rfl
  | silent agree ih => exact ih

/-- The integer that the environment spells, blank characters around it left out. -/
def Surroundings.environmentSeed (surroundings : Surroundings) : Option Int :=
  surroundings.seedVariable.bind fun text => Text.readInt? (Text.trim Text.isBlank text.toList)

theorem SeedSetting.seed?_read (surroundings : Surroundings) :
    (read surroundings.seedVariable).seed? = surroundings.environmentSeed := by
  rw [read, Surroundings.environmentSeed]
  cases surroundings.seedVariable with
  | none => rfl
  | some text =>
      simp only [Option.getD_some, Option.bind_some]
      generalize Text.trim Text.isBlank text.toList = spelled
      cases spelled with
      | nil => rfl
      | cons c rest =>
          rw [List.isEmpty_cons, if_neg Bool.false_ne_true]
          cases Text.readInt? (c :: rest) <;> rfl

theorem Surroundings.environmentSeed_eq {surroundings : Surroundings} {text : String}
    (given : surroundings.seedVariable = some text) :
    surroundings.environmentSeed = Text.readInt? (Text.trim Text.isBlank text.toList) := by
  rw [environmentSeed, given, Option.bind_some]

/-- A blank text spells no integer. -/
theorem readInt?_of_blank {text : List Char} (blank : ∀ c ∈ text, Text.isBlank c = true) :
    Text.readInt? (Text.trim Text.isBlank text) = none := by
  rw [Text.trim, List.dropWhile_eq_nil_iff.2 blank]
  rfl

namespace Settings

theorem withSeed_seed (settings : Settings) (setting : SeedSetting) :
    (settings.withSeed setting).seed = setting.seed?.or settings.seed := by
  rw [withSeed]
  cases setting.seed? <;> rfl

@[simp]
theorem withSeed_times (settings : Settings) (setting : SeedSetting) :
    (settings.withSeed setting).times = settings.times := by
  rw [withSeed]
  cases setting.seed? <;> rfl

@[simp]
theorem withSeed_values (settings : Settings) (setting : SeedSetting) :
    (settings.withSeed setting).values = settings.values := by
  rw [withSeed]
  cases setting.seed? <;> rfl

/-- Only the seed of the environment matters to the settings. -/
theorem withSeed_congr (settings : Settings) {setting other : SeedSetting}
    (same : setting.seed? = other.seed?) : settings.withSeed setting = settings.withSeed other := by
  rw [withSeed, withSeed, same]

/-- The environment comes over the file. -/
theorem resolve_fst (surroundings : Surroundings) (path? : Option String) :
    (resolve surroundings path?).1 =
      (loadAny surroundings path?).1.map (·.withSeed (.read surroundings.seedVariable)) := by
  rw [resolve]
  rcases loadAny surroundings path? with ⟨loaded, log⟩
  cases loaded <;> rfl

end Settings

namespace Program

/-- A name has the value of the command line if there is one, and else that of the settings. -/
theorem rollLookup_eq (settings : Settings) (assigned : Table Int) (name : String) :
    rollLookup settings assigned name =
      firstSaid [assigned.get? name, settings.values.get? name] := by
  rw [rollLookup, Layer.resolve, Layer.ofTable, Table.get?_map, Table.get?_overlay]
  cases assigned.get? name with
  | some value => rfl
  | none => cases settings.values.get? name <;> rfl

/-- A command line that asks for a roll, in surroundings with a settings file that can be used
or with none. -/
structure RollCall where
  context : ProgramContext
  arguments : List String
  source : String
  options : RollOptions
  file : Settings
  asked : Request.read context.surroundings.look arguments = .ok (.roll source options)
  loaded : (Settings.loadAny context.surroundings options.settingsFile).1 = .ok file

namespace RollCall

/-- Where the seed may come from. -/
def seedPlaces (call : RollCall) : List (Option Int) :=
  [call.options.seed, call.context.surroundings.environmentSeed, call.file.seed]

/-- Where the number of repetitions may come from. -/
def timesPlaces (call : RollCall) : List (Option Nat) :=
  [call.options.times, some call.file.times]

/-- Where the value of a name may come from. -/
def valuePlaces (call : RollCall) (assigned : Table Int) (name : String) : List (Option Int) :=
  [assigned.get? name, call.file.values.get? name]

/-- The settings in effect are those of the file with the seed of the environment over it. -/
theorem resolved (call : RollCall) :
    (Settings.resolve call.context.surroundings call.options.settingsFile).1 =
      .ok (call.file.withSeed (.read call.context.surroundings.seedVariable)) := by
  rw [Settings.resolve_fst, call.loaded]
  rfl

/-- A call goes through the loop with what its places settle. -/
theorem rollWith_eq (call : RollCall) (formula : Formula) (assigned : Table Int) :
    rollWith call.context formula call.options assigned
        (call.file.withSeed (.read call.context.surroundings.seedVariable)) =
      rollTimes call.context.columns formula
        (fun name => firstSaid (call.valuePlaces assigned name))
        ((firstSaid call.timesPlaces).getD 0) []
        (SeededSource.start ((firstSaid call.seedPlaces).getD call.context.freshSeed)) := by
  have lookup : rollLookup (call.file.withSeed (.read call.context.surroundings.seedVariable))
      assigned = fun name => firstSaid (call.valuePlaces assigned name) := by
    funext name
    rw [rollLookup_eq, Settings.withSeed_values, valuePlaces]
  have times : call.options.times.getD call.file.times = (firstSaid call.timesPlaces).getD 0 := by
    rw [timesPlaces]
    cases call.options.times <;> rfl
  have seed : (call.options.seed <|>
      call.context.surroundings.environmentSeed.or call.file.seed) = firstSaid call.seedPlaces := by
    rw [seedPlaces]
    cases call.options.seed with
    | some value => rfl
    | none =>
        cases call.context.surroundings.environmentSeed with
        | some value => rfl
        | none => cases call.file.seed <;> rfl
  rw [rollWith, lookup, Settings.withSeed_times, times, Settings.withSeed_seed,
    SeedSetting.seed?_read, seed]

/-- Two calls agree on the values of the names of a formula.  If the assignments of one cannot
be used, those of the other have the same fault. -/
inductive ValuesAgree (formula : Formula) (call other : RollCall) : Prop where
  | refused {fault : AssignmentFault}
      (wrong : Assignment.readAll call.options.assignments = .error fault)
      (otherWrong : Assignment.readAll other.options.assignments = .error fault)
  | given {assigned otherAssigned : Table Int}
      (read : Assignment.readAll call.options.assignments = .ok assigned)
      (otherRead : Assignment.readAll other.options.assignments = .ok otherAssigned)
      (agree : ∀ name ∈ formula.identifiers,
        Agree (call.valuePlaces assigned name.text) (other.valuePlaces otherAssigned name.text))

/-- Two calls agree on what a formula needs.  A seed is needed only where something is drawn,
and then there has to be one. -/
structure AgreeFor (formula : Formula) (call other : RollCall) : Prop where
  seed : (∀ event ∈ formula.events, event.isDraw = false) ∨
    (Agree call.seedPlaces other.seedPlaces ∧ firstSaid call.seedPlaces ≠ none)
  times : Agree call.timesPlaces other.timesPlaces
  values : ValuesAgree formula call other

end RollCall

/-- Repeated evaluations go alike where the names of the formula are looked up alike and the
sources are the same, or nothing is drawn. -/
theorem rollTimes_congr (width : Nat) {formula : Formula}
    {lookup otherLookup : String → Option Int}
    (agree : ∀ name ∈ formula.identifiers, lookup name.text = otherLookup name.text)
    {source otherSource : SeededSource}
    (alike : (∀ event ∈ formula.events, event.isDraw = false) ∨ source = otherSource)
    (times : Nat) (printed : List String) :
    rollTimes width formula lookup times printed source =
      rollTimes width formula otherLookup times printed otherSource := by
  induction times generalizing source otherSource printed with
  | zero => rfl
  | succ times ih =>
      -- The sources go on alike: both stay as they are, or they give the same.
      have answered : ∃ values next otherNext,
          Answers source formula.events values next ∧
          Answers otherSource formula.events values otherNext ∧
          ((∀ event ∈ formula.events, event.isDraw = false) ∨ next = otherNext) := by
        rcases alike with noDraw | rfl
        · exact ⟨[], source, otherSource, answers_of_noDraw noDraw source,
            answers_of_noDraw noDraw otherSource, .inl noDraw⟩
        · obtain ⟨values, next, answers⟩ :=
            source.answersRanges formula.events formula.nonemptyRanges_events
          exact ⟨values, next, next, answers, answers, .inr rfl⟩
      obtain ⟨values, next, otherNext, answers, otherAnswers, alikeLater⟩ := answered
      have told := answers.answersTo_eq.trans otherAnswers.answersTo_eq.symm
      have sameOutcome : (formula.evaluate lookup (.start source)).1 =
          (formula.evaluate otherLookup (.start otherSource)).1 :=
        (Formula.evaluate_congr (fun _ => rfl) (fun _ => rfl) agree told).1
      obtain ⟨outcome, evaluated⟩ := formula.evaluate_round lookup (.start source) answers
      obtain ⟨otherOutcome, otherEvaluated⟩ :=
        formula.evaluate_round otherLookup (.start otherSource) otherAnswers
      rw [evaluated, otherEvaluated] at sameOutcome
      obtain rfl := Except.ok.inj sameOutcome
      rw [rollTimes, rollTimes, evaluated, otherEvaluated]
      cases outcome with
      | error error => rfl
      | ok value => exact ih alikeLater (Text.intText value :: printed)

/-- Calls with one formula that agree on what it needs come out alike. -/
theorem RollCall.run_eq_of_agreeFor {call other : RollCall} (source : call.source = other.source)
    (columns : call.context.columns = other.context.columns)
    (agree : ∀ formula, Formula.parse call.source = .ok formula → AgreeFor formula call other) :
    run call.context call.arguments = run other.context other.arguments := by
  rw [run_of_roll call.asked, run_of_roll other.asked, ← source]
  cases accepted : Formula.parse call.source with
  | error fault => simp only [runRoll, accepted, columns]
  | ok formula =>
      obtain ⟨seed, times, values⟩ := agree formula accepted
      cases values with
      | refused wrong otherWrong => simp only [runRoll, accepted, wrong, otherWrong]
      | given read otherRead agree =>
          rw [runRoll_eq_rollWith accepted read call.resolved,
            runRoll_eq_rollWith accepted otherRead other.resolved, rollWith_eq, rollWith_eq,
            columns, times.firstSaid_eq]
          apply rollTimes_congr
          · intro name member
            exact (agree name member).firstSaid_eq
          · rcases seed with noDraw | ⟨seed, given⟩
            · exact .inl noDraw
            · obtain ⟨value, given⟩ := Option.ne_none_iff_exists'.1 given
              rw [← seed.firstSaid_eq, given]
              exact .inr rfl

/-- The same surroundings with another value of the environment variable, or with none. -/
def withSeedVariable (context : ProgramContext) (value? : Option String) : ProgramContext :=
  ⟨⟨context.surroundings.directory, context.surroundings.look, value?⟩, context.columns,
    context.freshSeed⟩

/-- An environment that spells no integer might as well say nothing. -/
theorem run_withSeedVariable (context : ProgramContext) (arguments : List String)
    {value? : Option String}
    (silent : (withSeedVariable context value?).surroundings.environmentSeed = none) :
    run (withSeedVariable context value?) arguments =
      run (withSeedVariable context none) arguments := by
  have resolved (path? : Option String) :
      (Settings.resolve (withSeedVariable context value?).surroundings path?).1 =
        (Settings.resolve (withSeedVariable context none).surroundings path?).1 := by
    have same :
        (SeedSetting.read (withSeedVariable context value?).surroundings.seedVariable).seed? =
          (SeedSetting.read (withSeedVariable context none).surroundings.seedVariable).seed? := by
      rw [SeedSetting.seed?_read, SeedSetting.seed?_read, silent]
      rfl
    rw [Settings.resolve_fst, Settings.resolve_fst]
    simp only [Settings.withSeed_congr _ same]
    rfl
  have rolled (source : String) (options : RollOptions) :
      runRoll (withSeedVariable context value?) source options =
        runRoll (withSeedVariable context none) source options := by
    rw [runRoll, runRoll, resolved]
    rfl
  rw [run, run]
  simp only [rolled]
  rfl

/-- What is overridden has no influence on a roll.  Calls with one formula, on displays of one
width, come out alike if the first place that names a seed, a number of repetitions or the
value of a name of the formula says the same in both, whatever the places behind it say and
whatever is said about other names; without anything to draw the seed is free.  And an
environment that is blank or spells no integer does the same as one that says nothing. -/
theorem run_roll_overriding :
    (∀ call other : RollCall, call.source = other.source →
      call.context.columns = other.context.columns →
      (∀ formula, Formula.parse call.source = .ok formula →
        RollCall.AgreeFor formula call other) →
      run call.context call.arguments = run other.context other.arguments) ∧
    ∀ (context : ProgramContext) (arguments : List String) (text : String),
      ((∀ c ∈ text.toList, Text.isBlank c = true) ∨
        Text.readInt? (Text.trim Text.isBlank text.toList) = none) →
      run (withSeedVariable context (some text)) arguments =
        run (withSeedVariable context none) arguments := by
  constructor
  · intro call other source columns agree
    exact RollCall.run_eq_of_agreeFor source columns agree
  · intro context arguments text noInteger
    apply run_withSeedVariable
    rw [Surroundings.environmentSeed_eq rfl]
    exact noInteger.elim readInt?_of_blank id

/-- A seed of zero on the command line goes before those of the environment and of the file. -/
theorem run_roll_overriding_zeroSeed :
    let arguments := ["roll", "x + 2d6", "--var", "x=4", "--seed", "0", "--times", "2"]
    let settings := "[roll]\nseed = 5\ntimes = 3\n[variables]\nx = 1\ny = 8\n"
    run (withSeedVariable (besideSettings settings.toUTF8) (some "12")) arguments =
      run (withSeedVariable (besideSettings ⟨#[]⟩) (some "twelve")) arguments := by
  intro arguments settings
  have loaded : (Settings.loadAny
      (withSeedVariable (besideSettings settings.toUTF8) (some "12")).surroundings none).1 =
        .ok ⟨some 5, 3, ⟨[("x", 1), ("y", 8)], by decide⟩, by decide⟩ := by
    apply Settings.eq_ok_of_toOption
    decide +kernel
  have otherLoaded : (Settings.loadAny
      (withSeedVariable (besideSettings ⟨#[]⟩) (some "twelve")).surroundings none).1 =
        .ok .default := by
    apply Settings.eq_ok_of_toOption
    decide +kernel
  let options : RollOptions := ⟨["x=4"], some 0, some 2, none⟩
  let call : RollCall := ⟨_, arguments, "x + 2d6", options, _, rfl, loaded⟩
  let other : RollCall := ⟨_, arguments, "x + 2d6", options, _, rfl, otherLoaded⟩
  apply run_roll_overriding.1 call other rfl rfl
  intro formula accepted
  have read : Formula.parse "x + 2d6" =
      .ok ⟨.identifier ⟨['x'], by simp, List.forall_mem_singleton.2 rfl⟩,
        [(.add, .roll 2 6)]⟩ := by
    decide +kernel
  obtain rfl := Except.ok.inj (accepted.symm.trans read)
  have assignable : Assignment.readAll ["x=4"] = .ok ⟨[("x", 4)], by decide⟩ := by
    decide +kernel
  refine ⟨.inr ⟨.settled 0 _ _, nofun⟩, .settled 2 _ _, .given assignable assignable ?_⟩
  intro name member
  obtain rfl := List.mem_singleton.1 member
  exact .settled 4 _ _

end Program

end DiceFormula
