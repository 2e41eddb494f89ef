/-
# What a settings file can lead to

The content of a settings file leads to settings, to a fault that is reported, or to a failure
that nobody reports.  A document is looked through in a fixed order, and the first thing that
is wrong decides.  Something other than a table in the place of a section is not reported, nor
is a value that cannot be shown; bytes that are not text and an integer with too many digits
stop the reading before that.

Every other content of the file makes a roll end with the exit code zero or one, because dice
from a seeded source are always answered.
-/

import DiceFormula.CommandLine.Program
import DiceFormula.Proofs.TextEvaluation

namespace DiceFormula

namespace Settings

section Document

variable {path : String} {entries roll given : Toml.Entries} {name : String}
  {failure : LoadFailure}

/-- What a section of a document holds.  An absent one is empty. -/
inductive SectionIs (entries : Toml.Entries) (name : String) : Toml.Entries → Prop
  | absent (missing : Table.find? name entries = none) : SectionIs entries name []
  | table {inner : Toml.Entries} (found : Table.find? name entries = some (.table inner)) :
      SectionIs entries name inner

def IsTable : Toml.Value → Prop
  | .table _ => True
  | _ => False

def IsInteger : Toml.Value → Prop
  | .integer _ => True
  | _ => False

def IsPositive : Toml.Value → Prop
  | .integer value => 1 ≤ value
  | _ => False

/-- If a name has a value, it is of the right kind. -/
def Fits (right : Toml.Value → Prop) (name : String) (entries : Toml.Entries) : Prop :=
  ∀ value, Table.find? name entries = some value → right value

/-- The failure that a document leads to: the first thing that is wrong in it. -/
inductive FirstFault (path : String) (entries : Toml.Entries) : LoadFailure → Prop
  | rollSection {value : Toml.Value} (found : Table.find? "roll" entries = some value)
      (wrong : ¬ IsTable value) : FirstFault path entries (.notTable "roll")
  | badSeed {roll : Toml.Entries} {value : Toml.Value} (rollIs : SectionIs entries "roll" roll)
      (found : Table.find? "seed" roll = some value) (wrong : ¬ IsInteger value) :
      FirstFault path entries (.ofCause path (.badSeed value))
  | badTimes {roll : Toml.Entries} {value : Toml.Value} (rollIs : SectionIs entries "roll" roll)
      (seedFits : Fits IsInteger "seed" roll) (found : Table.find? "times" roll = some value)
      (wrong : ¬ IsPositive value) : FirstFault path entries (.ofCause path (.badTimes value))
  | variablesSection {roll : Toml.Entries} {value : Toml.Value}
      (rollIs : SectionIs entries "roll" roll) (seedFits : Fits IsInteger "seed" roll)
      (timesFit : Fits IsPositive "times" roll)
      (found : Table.find? "variables" entries = some value) (wrong : ¬ IsTable value) :
      FirstFault path entries (.notTable "variables")
  | badVariable {roll before after : Toml.Entries} {name : String} {value : Toml.Value}
      (rollIs : SectionIs entries "roll" roll) (seedFits : Fits IsInteger "seed" roll)
      (timesFit : Fits IsPositive "times" roll)
      (variablesAre : SectionIs entries "variables" (before ++ (name, value) :: after))
      (fit : ∀ entry ∈ before, IsInteger entry.2) (wrong : ¬ IsInteger value) :
      FirstFault path entries (.ofCause path (.badVariable name value))

theorem sectionOf_eq_ok_iff : sectionOf entries name = .ok given ↔ SectionIs entries name given := by
  constructor
  · intro isSection
    cases found : Table.find? name entries with
    | none =>
        rw [sectionOf, found] at isSection
        cases isSection
        exact .absent found
    | some value =>
        rw [sectionOf, found] at isSection
        cases value with
        | table inner =>
            cases isSection
            exact .table found
        | _ => cases isSection
  · intro isSection
    cases isSection with
    | absent missing => rw [sectionOf, missing]
    | table found => rw [sectionOf, found]

theorem sectionOf_eq_error_iff :
    sectionOf entries name = .error failure ↔
      ∃ value, Table.find? name entries = some value ∧ ¬ IsTable value ∧
        failure = .notTable name := by
  rw [sectionOf]
  cases Table.find? name entries with
  | none => simp
  | some value => cases value <;> simp [IsTable, eq_comm]

theorem readSeed_eq_error_iff :
    readSeed path roll = .error failure ↔
      ∃ value, Table.find? "seed" roll = some value ∧ ¬ IsInteger value ∧
        failure = .ofCause path (.badSeed value) := by
  rw [readSeed]
  cases Table.find? "seed" roll with
  | none => simp
  | some value => cases value <;> simp [IsInteger, eq_comm]

/-- A check that fails at a wrong value only succeeds if the value fits. -/
theorem exists_ok_iff_fits {α : Type} {outcome : Except LoadFailure α}
    {right : Toml.Value → Prop} {cause : Toml.Value → SettingsCause}
    (failing : ∀ failure, outcome = .error failure ↔
      ∃ value, Table.find? name roll = some value ∧ ¬ right value ∧
        failure = .ofCause path (cause value)) :
    (∃ value, outcome = .ok value) ↔ Fits right name roll := by
  cases outcome with
  | ok result =>
      refine iff_of_true ⟨result, rfl⟩ fun value found => ?_
      by_contra wrong
      cases (failing _).2 ⟨value, found, wrong, rfl⟩
  | error failure =>
      obtain ⟨value, found, wrong, -⟩ := (failing failure).1 rfl
      refine iff_of_false ?_ fun fits => wrong (fits value found)
      intro ⟨result, succeeds⟩
      cases succeeds

theorem exists_readSeed_iff (path : String) :
    (∃ seed, readSeed path roll = .ok seed) ↔ Fits IsInteger "seed" roll :=
  exists_ok_iff_fits fun _ => readSeed_eq_error_iff

theorem readTimes_integer (path : String) {value : Int}
    (found : Table.find? "times" roll = some (.integer value)) :
    readTimes path roll =
      if h : 1 ≤ value then .ok ⟨value.toNat, by omega⟩
      else .error (.ofCause path (.badTimes (.integer value))) := by
  rw [readTimes, found]
  by_cases positive : 1 ≤ value
  · have some : 0 < value.toNat := by omega
    simp only [dif_pos positive, dif_pos some]
  · have none : ¬ 0 < value.toNat := by omega
    simp only [dif_neg positive, dif_neg none]

theorem readTimes_eq_error_iff :
    readTimes path roll = .error failure ↔
      ∃ value, Table.find? "times" roll = some value ∧ ¬ IsPositive value ∧
        failure = .ofCause path (.badTimes value) := by
  cases found : Table.find? "times" roll with
  | none => simp [readTimes, found]
  | some value =>
      cases value with
      | integer value =>
          rw [readTimes_integer path found]
          by_cases positive : 1 ≤ value <;> simp [IsPositive, positive, eq_comm]
      | _ => simp [readTimes, found, IsPositive, eq_comm]

theorem exists_readTimes_iff (path : String) :
    (∃ times, readTimes path roll = .ok times) ↔ Fits IsPositive "times" roll :=
  exists_ok_iff_fits fun _ => readTimes_eq_error_iff

theorem exists_integer {value : Toml.Value} (isInteger : IsInteger value) :
    ∃ number, value = .integer number := by
  cases value with
  | integer number => exact ⟨number, rfl⟩
  | _ => cases isInteger

theorem readVariables_wrong {value : Toml.Value} (wrong : ¬ IsInteger value)
    (table : Table Int) (rest : Toml.Entries) :
    readVariables path table ((name, value) :: rest) =
      .error (.ofCause path (.badVariable name value)) := by
  cases value with
  | integer number => exact absurd trivial wrong
  | _ => rfl

/-- The variables are read up to the first that is no integer. -/
theorem readVariables_eq_error_iff {table : Table Int} :
    readVariables path table given = .error failure ↔
      ∃ before name value after, given = before ++ (name, value) :: after ∧
        (∀ entry ∈ before, IsInteger entry.2) ∧ ¬ IsInteger value ∧
          failure = .ofCause path (.badVariable name value) := by
  induction given generalizing table with
  | nil => simp [readVariables]
  | cons entry rest ih =>
      obtain ⟨name, value⟩ := entry
      constructor
      · intro failed
        by_cases isInteger : IsInteger value
        · obtain ⟨number, rfl⟩ := exists_integer isInteger
          obtain ⟨before, other, wrong, after, rfl, fit, misfit, rfl⟩ := ih.1 failed
          have fitHere : ∀ entry ∈ (name, .integer number) :: before, IsInteger entry.2 :=
            List.forall_mem_cons.2 ⟨trivial, fit⟩
          exact ⟨_, other, wrong, after, rfl, fitHere, misfit, rfl⟩
        · rw [readVariables_wrong isInteger] at failed
          cases failed
          exact ⟨[], name, value, rest, rfl, List.forall_mem_nil _, isInteger, rfl⟩
      · intro ⟨before, other, wrong, after, split, fit, misfit, same⟩
        cases before with
        | nil =>
            cases split
            rw [readVariables_wrong misfit, same]
        | cons first before =>
            cases split
            obtain ⟨number, rfl⟩ := exists_integer (fit _ List.mem_cons_self)
            have fitLater : ∀ entry ∈ before, IsInteger entry.2 :=
              fun entry member => fit entry (List.mem_cons_of_mem _ member)
            exact ih.2 ⟨before, other, wrong, after, rfl, fitLater, misfit, same⟩

theorem error_or_ok {ε α : Type} (outcome : Except ε α) :
    (∃ failure, outcome = .error failure) ∨ ∃ value, outcome = .ok value := by
  cases outcome with
  | error failure => exact .inl ⟨failure, rfl⟩
  | ok value => exact .inr ⟨value, rfl⟩

theorem eq_ok_of_toOption {ε α : Type} {outcome : Except ε α} {value : α}
    (succeeds : outcome.toOption = some value) : outcome = .ok value := by
  cases outcome with
  | error failure => cases succeeds
  | ok found => exact congrArg Except.ok (Option.some.inj succeeds)

theorem firstFault_of_ofEntries (failed : ofEntries path entries = .error failure) :
    FirstFault path entries failure := by
  rcases error_or_ok (sectionOf entries "roll") with ⟨_, rollRead⟩ | ⟨roll, rollRead⟩
  · obtain ⟨value, found, wrong, rfl⟩ := sectionOf_eq_error_iff.1 rollRead
    simp only [ofEntries, rollRead, Except.error.injEq] at failed
    exact failed ▸ .rollSection found wrong
  have rollIs := sectionOf_eq_ok_iff.1 rollRead
  rcases error_or_ok (readSeed path roll) with ⟨_, seedRead⟩ | ⟨seed, seedRead⟩
  · obtain ⟨value, found, wrong, rfl⟩ := readSeed_eq_error_iff.1 seedRead
    simp only [ofEntries, rollRead, seedRead, Except.error.injEq] at failed
    exact failed ▸ .badSeed rollIs found wrong
  have seedFits := (exists_readSeed_iff path).1 ⟨seed, seedRead⟩
  rcases error_or_ok (readTimes path roll) with ⟨_, timesRead⟩ | ⟨times, timesRead⟩
  · obtain ⟨value, found, wrong, rfl⟩ := readTimes_eq_error_iff.1 timesRead
    simp only [ofEntries, rollRead, seedRead, timesRead, Except.error.injEq] at failed
    exact failed ▸ .badTimes rollIs seedFits found wrong
  have timesFit := (exists_readTimes_iff path).1 ⟨times, timesRead⟩
  rcases error_or_ok (sectionOf entries "variables") with ⟨_, givenRead⟩ | ⟨given, givenRead⟩
  · obtain ⟨value, found, wrong, rfl⟩ := sectionOf_eq_error_iff.1 givenRead
    simp only [ofEntries, rollRead, seedRead, timesRead, givenRead, Except.error.injEq]
      at failed
    exact failed ▸ .variablesSection rollIs seedFits timesFit found wrong
  have variablesAre := sectionOf_eq_ok_iff.1 givenRead
  rcases error_or_ok (readVariables path .empty given) with ⟨_, tableRead⟩ | ⟨table, tableRead⟩
  · obtain ⟨before, name, value, after, rfl, fit, wrong, rfl⟩ :=
      readVariables_eq_error_iff.1 tableRead
    simp only [ofEntries, rollRead, seedRead, timesRead, givenRead, tableRead,
      Except.error.injEq] at failed
    exact failed ▸ .badVariable rollIs seedFits timesFit variablesAre fit wrong
  · simp only [ofEntries, rollRead, seedRead, timesRead, givenRead, tableRead,
      reduceCtorEq] at failed

/-- Everything in front of the first fault is passed, and the fault is answered. -/
theorem FirstFault.ofEntries_eq (first : FirstFault path entries failure) :
    ofEntries path entries = .error failure := by
  cases first with
  | rollSection found wrong =>
      simp only [ofEntries, sectionOf_eq_error_iff.2 ⟨_, found, wrong, rfl⟩]
  | @badSeed roll value rollIs found wrong =>
      have noSeed : readSeed path roll = .error (.ofCause path (.badSeed value)) :=
        readSeed_eq_error_iff.2 ⟨_, found, wrong, rfl⟩
      simp only [ofEntries, sectionOf_eq_ok_iff.2 rollIs, noSeed]
  | @badTimes roll value rollIs seedFits found wrong =>
      obtain ⟨seed, seedRead⟩ := (exists_readSeed_iff path).2 seedFits
      have noTimes : readTimes path roll = .error (.ofCause path (.badTimes value)) :=
        readTimes_eq_error_iff.2 ⟨_, found, wrong, rfl⟩
      simp only [ofEntries, sectionOf_eq_ok_iff.2 rollIs, seedRead, noTimes]
  | variablesSection rollIs seedFits timesFit found wrong =>
      obtain ⟨seed, seedRead⟩ := (exists_readSeed_iff path).2 seedFits
      obtain ⟨times, timesRead⟩ := (exists_readTimes_iff path).2 timesFit
      simp only [ofEntries, sectionOf_eq_ok_iff.2 rollIs, seedRead, timesRead,
        sectionOf_eq_error_iff.2 ⟨_, found, wrong, rfl⟩]
  | @badVariable roll before after name value rollIs seedFits timesFit variablesAre fit wrong =>
      obtain ⟨seed, seedRead⟩ := (exists_readSeed_iff path).2 seedFits
      obtain ⟨times, timesRead⟩ := (exists_readTimes_iff path).2 timesFit
      have noVariable : readVariables path .empty (before ++ (name, value) :: after) =
          .error (.ofCause path (.badVariable name value)) :=
        readVariables_eq_error_iff.2 ⟨before, name, value, after, rfl, fit, wrong, rfl⟩
      simp only [ofEntries, sectionOf_eq_ok_iff.2 rollIs, seedRead, timesRead,
        sectionOf_eq_ok_iff.2 variablesAre, noVariable]

/-- The check of a document fails at the first thing that is wrong. -/
theorem ofEntries_eq_error_iff :
    ofEntries path entries = .error failure ↔ FirstFault path entries failure :=
  ⟨firstFault_of_ofEntries, FirstFault.ofEntries_eq⟩

end Document

section Content

variable {path : String} {content : ByteArray} {failure : LoadFailure}

/-- The bytes of a file are text that is read as a document with these entries. -/
def Holds (content : ByteArray) (entries : Toml.Entries) : Prop :=
  ∃ text, String.fromUTF8? content = some text ∧
    Toml.parse (Text.lineFeeds text.toList) = .ok entries

/-- Only faults of the content are reported. -/
def IsReported : LoadFailure → Prop
  | .faulty _ _ => True
  | _ => False

/-- The failures that break off the reading of a settings file without a report. -/
inductive BreaksOff (path : String) (content : ByteArray) : LoadFailure → Prop
  | notText (undecodable : String.fromUTF8? content = none) : BreaksOff path content .notText
  | tooManyDigits {text : String} {count : Nat} (decoded : String.fromUTF8? content = some text)
      (long : Toml.parse (Text.lineFeeds text.toList) = .error (.tooManyDigits count)) :
      BreaksOff path content (.tooManyDigits count)
  | document {entries : Toml.Entries} {failure : LoadFailure} (holds : Holds content entries)
      (first : FirstFault path entries failure) (unreported : ¬ IsReported failure) :
      BreaksOff path content failure

theorem breaksOff_iff :
    BreaksOff path content failure ↔
      ofBytes path content = .error failure ∧ ¬ IsReported failure := by
  constructor
  · intro breaksOff
    cases breaksOff with
    | notText undecodable =>
        refine ⟨?_, id⟩
        rw [ofBytes, undecodable]
    | tooManyDigits decoded long =>
        refine ⟨?_, id⟩
        rw [ofBytes, decoded]
        simp only [ofText, long]
    | document holds first unreported =>
        obtain ⟨text, decoded, read⟩ := holds
        refine ⟨?_, unreported⟩
        rw [ofBytes, decoded]
        simp only [ofText, read]
        exact ofEntries_eq_error_iff.2 first
  · intro ⟨failed, unreported⟩
    cases decoded : String.fromUTF8? content with
    | none =>
        rw [ofBytes, decoded] at failed
        cases failed
        exact .notText decoded
    | some text =>
        rw [ofBytes, decoded] at failed
        cases read : Toml.parse (Text.lineFeeds text.toList) with
        | error fault =>
            simp only [ofText, read] at failed
            cases fault with
            | malformed =>
                cases failed
                exact absurd trivial unreported
            | tooManyDigits count =>
                cases failed
                exact .tooManyDigits decoded read
        | ok entries =>
            simp only [ofText, read] at failed
            exact .document ⟨text, decoded, read⟩ (ofEntries_eq_error_iff.1 failed) unreported

/-- The failures of a file that is there are those of its content. -/
theorem load_eq_ofBytes {surroundings : Surroundings} {path : String} {content : ByteArray}
    (file : surroundings.look (Path.normal path) = .file content) :
    (load surroundings path).1 = ofBytes (Path.normal path) content := by
  rw [load]
  simp only [file]
  cases ofBytes (Path.normal path) content <;> rfl

/-- The settings in effect are those of the file with another seed at most. -/
theorem resolve_eq_ofBytes {surroundings : Surroundings} {path? : Option String} {path : String}
    {content : ByteArray}
    (named : (path? <|> find? surroundings surroundings.directory) = some path)
    (file : surroundings.look (Path.normal path) = .file content) :
    (resolve surroundings path?).1 =
      (ofBytes (Path.normal path) content).map
        (·.withSeed (.read surroundings.seedVariable)) := by
  rw [← load_eq_ofBytes file, resolve, loadAny, named]
  dsimp only
  rcases load surroundings path with ⟨result, log⟩
  cases result <;> rfl

end Content

end Settings

namespace Program

/-- Rolling with seeded dice ends with the exit code zero or one. -/
theorem rollTimes_ends (width : Nat) (formula : Formula) (lookup : String → Option Int)
    (times : Nat) (printed : List String) (source : SeededSource) :
    ∃ result, rollTimes width formula lookup times printed source = .ok result ∧
      (result.exitCode = 0 ∨ result.exitCode = 1) := by
  induction times generalizing printed source with
  | zero => exact ⟨success printed.reverse, rfl, .inl rfl⟩
  | succ times ih =>
      obtain ⟨values, next, answers⟩ :=
        source.answersRanges formula.events formula.nonemptyRanges_events
      obtain ⟨outcome, evaluated⟩ := formula.evaluate_round lookup (.start source) answers
      rw [rollTimes, evaluated]
      cases outcome with
      | error failed => exact ⟨_, rfl, .inr rfl⟩
      | ok value => exact ih (Text.intText value :: printed) next

section Roll

variable {context : ProgramContext} {arguments : List String} {source : String}
  {options : RollOptions} {formula : Formula} {assigned : Table Int} {path : String}
  {content : ByteArray}

theorem run_of_roll
    (asked : Request.read context.surroundings.look arguments = .ok (.roll source options)) :
    run context arguments = runRoll context source options := by
  simp only [run, asked]

/-- The program in a directory that holds nothing but a settings file. -/
def besideSettings (content : ByteArray) : ProgramContext :=
  let look := fun path => if path = Settings.fileName then .file content else .missing
  ⟨⟨"", look, none⟩, 80, 0⟩

theorem besideSettings_look (content : ByteArray) :
    (besideSettings content).surroundings.look (Path.normal Settings.fileName) =
      .file content := by
  have normal : Path.normal Settings.fileName = Settings.fileName := by decide +kernel
  simp [besideSettings, normal]

theorem besideSettings_find? (content : ByteArray) :
    Settings.find? (besideSettings content).surroundings "" = some Settings.fileName := by
  have candidate : Path.child "" Settings.fileName = Settings.fileName := by decide +kernel
  simp [Settings.find?, besideSettings, candidate]

theorem besideSettings_request (content : ByteArray) :
    Request.read (besideSettings content).surroundings.look ["roll", "1 + 1"] =
      .ok (.roll "1 + 1" ⟨[], none, none, none⟩) := by
  rfl

theorem parse_onePlusOne : Formula.parse "1 + 1" = .ok ⟨.literal 1, [(.add, .literal 1)]⟩ := by
  decide +kernel

variable (accepted : Formula.parse source = .ok formula)
  (assignable : Assignment.readAll options.assignments = .ok assigned)

include accepted assignable

/-- With everything at hand a roll is carried out. -/
theorem runRoll_eq_rollWith {settings : Settings}
    (resolved : (Settings.resolve context.surroundings options.settingsFile).1 = .ok settings) :
    runRoll context source options = rollWith context formula options assigned settings := by
  simp only [runRoll, accepted, assignable, resolved]

theorem runRoll_of_settings {settings : Settings}
    (resolved : (Settings.resolve context.surroundings options.settingsFile).1 = .ok settings) :
    ∃ result, runRoll context source options = .ok result ∧
      (result.exitCode = 0 ∨ result.exitCode = 1) := by
  rw [runRoll_eq_rollWith accepted assignable resolved]
  exact rollTimes_ends _ _ _ _ _ _

/-- A fault of the settings file that is reported makes the exit code one. -/
theorem runRoll_of_reported {failure : LoadFailure} (reported : Settings.IsReported failure)
    (resolved : (Settings.resolve context.surroundings options.settingsFile).1 = .error failure) :
    ∃ result, runRoll context source options = .ok result ∧
      (result.exitCode = 0 ∨ result.exitCode = 1) := by
  cases failure with
  | faulty path cause =>
      simp only [runRoll, accepted, assignable, resolved]
      exact ⟨_, rfl, .inr rfl⟩
  | _ => cases reported

/-- Every other failure to load the settings breaks off the run. -/
theorem runRoll_of_unreported {failure : LoadFailure} (unreported : ¬ Settings.IsReported failure)
    (resolved : (Settings.resolve context.surroundings options.settingsFile).1 = .error failure) :
    runRoll context source options = .error (.load failure) := by
  cases failure with
  | faulty path cause => exact absurd trivial unreported
  | _ => simp only [runRoll, accepted, assignable, resolved]

/-- The content of the settings file decides how a roll ends.  Loading fails without a report
exactly where the content breaks off the reading, the run is broken off exactly then, and every
other run has the exit code zero or one. -/
theorem run_roll_ends
    (asked : Request.read context.surroundings.look arguments = .ok (.roll source options))
    (named : (options.settingsFile <|>
      Settings.find? context.surroundings context.surroundings.directory) = some path)
    (file : context.surroundings.look (Path.normal path) = .file content) :
    (∀ failure,
      ((Settings.load context.surroundings path).1 = .error failure ∧
          ¬ Settings.IsReported failure) ↔
        Settings.BreaksOff (Path.normal path) content failure) ∧
    (∀ failure, run context arguments = .error failure ↔
      ∃ cause, failure = .load cause ∧ Settings.BreaksOff (Path.normal path) content cause) ∧
    ∀ result, run context arguments = .ok result →
      result.exitCode = 0 ∨ result.exitCode = 1 := by
  have loaded := Settings.load_eq_ofBytes file
  have resolved := Settings.resolve_eq_ofBytes named file
  refine ⟨fun failure => by rw [loaded, Settings.breaksOff_iff], ?_⟩
  rw [run_of_roll asked]
  simp only [Settings.breaksOff_iff]
  cases read : Settings.ofBytes (Path.normal path) content with
  | ok settings =>
      rw [read] at resolved
      obtain ⟨result, ran, ends⟩ := runRoll_of_settings accepted assignable resolved
      simpa [ran] using ends
  | error failure =>
      rw [read] at resolved
      by_cases reported : Settings.IsReported failure
      · obtain ⟨result, ran, ends⟩ := runRoll_of_reported accepted assignable reported resolved
        simpa [ran, reported] using ends
      · have ran := runRoll_of_unreported accepted assignable reported resolved
        simp [ran, reported, eq_comm]

omit accepted assignable

/-- Bytes that are not text break off the roll. -/
theorem run_roll_ends_notText :
    run (besideSettings ⟨#[0xff]⟩) ["roll", "1 + 1"] = .error (.load .notText) := by
  have named := besideSettings_find? ⟨#[0xff]⟩
  have file := besideSettings_look ⟨#[0xff]⟩
  obtain ⟨-, breaks, -⟩ :=
    run_roll_ends parse_onePlusOne rfl (besideSettings_request _) named file
  exact (breaks _).2 ⟨.notText, rfl, .notText rfl⟩

/-- They lead neither to settings nor to a report, and the roll has no exit code. -/
theorem not_settings_or_report_of_notText :
    let context := besideSettings ⟨#[0xff]⟩
    let loaded := (Settings.load context.surroundings Settings.fileName).1
    ¬ ((∃ settings, loaded = .ok settings) ∨ ∃ path cause, loaded = .error (.faulty path cause)) ∧
      ¬ ∃ result, run context ["roll", "1 + 1"] = .ok result := by
  intro context loaded
  have read (path : String) : Settings.ofBytes path ⟨#[0xff]⟩ = .error .notText := by rfl
  have failed : loaded = .error .notText :=
    (Settings.load_eq_ofBytes (besideSettings_look ⟨#[0xff]⟩)).trans (read _)
  have resolved : (Settings.resolve context.surroundings none).1 = .error .notText := by
    rw [Settings.resolve_eq_ofBytes (besideSettings_find? ⟨#[0xff]⟩) (besideSettings_look _), read]
    rfl
  have ran : runRoll context "1 + 1" ⟨[], none, none, none⟩ = .error (.load .notText) :=
    runRoll_of_unreported parse_onePlusOne rfl id resolved
  constructor
  · rw [failed]
    intro known
    rcases known with ⟨settings, same⟩ | ⟨path, cause, same⟩
    · cases same
    · cases same
  · rw [run_of_roll (besideSettings_request _), ran]
    intro ⟨result, same⟩
    cases same

end Roll

end Program

end DiceFormula
