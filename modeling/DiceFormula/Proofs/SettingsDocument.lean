/-
# What a settings document says

Of a document in which the sections are tables three things matter: the seed and the number of
times in one section, and the variables that the other section gives.  If all of them are right,
they are the settings, the variables in the order of the file.  Otherwise the first that is
wrong is the fault: the seed, then the number of times, then the variables in their order,
whatever else is wrong.  The environment changes the seed and nothing more.

A fault shows the value that was found.  If there is an integer in it that has too many digits to
be written out, the fault cannot be reported.
-/

import DiceFormula.Proofs.DistinctNames
import DiceFormula.Proofs.Overriding

namespace DiceFormula

namespace Settings

variable {path : String} {entries roll given : Toml.Entries} {seed? times? : Option Toml.Value}

/-- What of a document matters, if its sections are tables or absent. -/
structure Gist (entries : Toml.Entries) (seed? times? : Option Toml.Value)
    (given : Toml.Entries) : Prop where
  roll : ∃ roll, SectionIs entries "roll" roll ∧ Table.find? "seed" roll = seed? ∧
    Table.find? "times" roll = times?
  values : SectionIs entries "variables" given

/-- Everything that matters is right. -/
structure Valid (seed? times? : Option Toml.Value) (given : Toml.Entries) : Prop where
  seed : ∀ value, seed? = some value → IsInteger value
  times : ∀ value, times? = some value → IsPositive value
  values : ∀ entry ∈ given, IsInteger entry.2

/-- An entry with an integer as its value. -/
def integerEntry (entry : String × Int) : String × Toml.Value :=
  (entry.1, .integer entry.2)

/-- What matters is what the settings are.  Without a seed there is none, and the number of
times is one if it is not given. -/
structure Describes (seed? times? : Option Toml.Value) (given : Toml.Entries)
    (settings : Settings) : Prop where
  seed : seed? = settings.seed.map .integer
  times : times? = some (.integer settings.times) ∨ times? = none ∧ settings.times = 1
  values : given = settings.values.entries.map integerEntry

/-- The first that is wrong of what matters. -/
inductive FirstWrong (seed? times? : Option Toml.Value) (given : Toml.Entries) :
    SettingsCause → Prop where
  | badSeed {value : Toml.Value} (found : seed? = some value) (wrong : ¬ IsInteger value) :
      FirstWrong seed? times? given (.badSeed value)
  | badTimes {value : Toml.Value} (seedRight : ∀ seed, seed? = some seed → IsInteger seed)
      (found : times? = some value) (wrong : ¬ IsPositive value) :
      FirstWrong seed? times? given (.badTimes value)
  | badVariable {before after : Toml.Entries} {name : String} {value : Toml.Value}
      (seedRight : ∀ seed, seed? = some seed → IsInteger seed)
      (timesRight : ∀ times, times? = some times → IsPositive times)
      (split : given = before ++ (name, value) :: after)
      (fit : ∀ entry ∈ before, IsInteger entry.2) (wrong : ¬ IsInteger value) :
      FirstWrong seed? times? given (.badVariable name value)

theorem SectionIs.unique {name : String} {inner other : Toml.Entries}
    (innerIs : SectionIs entries name inner) (otherIs : SectionIs entries name other) :
    inner = other := by
  have same := (sectionOf_eq_ok_iff.2 innerIs).symm.trans (sectionOf_eq_ok_iff.2 otherIs)
  exact Except.ok.inj same

/-- What stands in the place of a section is a table. -/
theorem SectionIs.isTable {name : String} {inner : Toml.Entries} {value : Toml.Value}
    (innerIs : SectionIs entries name inner) (found : Table.find? name entries = some value) :
    IsTable value := by
  cases innerIs with
  | absent missing =>
      rw [missing] at found
      cases found
  | table tableFound =>
      obtain rfl := Option.some.inj (tableFound.symm.trans found)
      trivial

section Right

theorem readSeed_eq_ok_iff {seed : Option Int} :
    readSeed path roll = .ok seed ↔ Table.find? "seed" roll = seed.map .integer := by
  rw [readSeed]
  cases Table.find? "seed" roll with
  | none => cases seed <;> simp
  | some value => cases value <;> cases seed <;> simp

theorem readTimes_eq_ok_iff {times : { times : Nat // 0 < times }} :
    readTimes path roll = .ok times ↔ Table.find? "times" roll = some (.integer times.val) ∨
      Table.find? "times" roll = none ∧ times.val = 1 := by
  obtain ⟨times, positive⟩ := times
  cases found : Table.find? "times" roll with
  | none =>
      rw [readTimes, found]
      simp only [Except.ok.injEq, Subtype.mk.injEq, reduceCtorEq, true_and, false_or]
      exact eq_comm
  | some value =>
      cases value with
      | integer value =>
          rw [readTimes_integer path found]
          split_ifs with enough
          · simp only [Except.ok.injEq, Subtype.mk.injEq, Option.some.injEq,
              Toml.Value.integer.injEq, false_and, or_false]
            omega
          · simp only [Option.some.injEq, Toml.Value.integer.injEq, false_and, or_false, false_iff]
            omega
      | _ => simp [readTimes, found]

theorem integerEntry_injective : Function.Injective integerEntry := by
  rintro ⟨name, value⟩ ⟨other, otherValue⟩ same
  obtain ⟨sameName, sameValue⟩ := Prod.mk.inj same
  exact Prod.ext sameName (Toml.Value.integer.inj sameValue)

/-- Variables that have different names and are integers are kept as they are. -/
theorem readVariables_eq_ok_iff {table result : Table Int}
    (names : (table.names ++ given.map Prod.fst).Nodup) :
    readVariables path table given = .ok result ↔
      table.entries.map integerEntry ++ given = result.entries.map integerEntry := by
  induction given generalizing table with
  | nil =>
      rw [readVariables, Except.ok.injEq, List.append_nil,
        integerEntry_injective.list_map.eq_iff]
      exact ⟨congrArg Table.entries, Table.eq_of_entries_eq⟩
  | cons entry rest ih =>
      obtain ⟨name, value⟩ := entry
      by_cases isInteger : IsInteger value
      · obtain ⟨number, rfl⟩ := exists_integer isInteger
        -- A name that is not there yet is put at the end, so the order of the file is kept.
        have absent : name ∉ table.entries.map Prod.fst := by
          intro present
          exact (List.nodup_append.1 names).2.2 name present name List.mem_cons_self rfl
        have grown : (table.set name number).entries = table.entries ++ [(name, number)] :=
          Table.put_of_notMem absent number
        have laterNames : ((table.set name number).names ++ rest.map Prod.fst).Nodup := by
          rw [Table.names, grown, List.map_append, List.append_assoc]
          exact names
        rw [readVariables, ih laterNames, grown, List.map_append, List.append_assoc]
        rfl
      · rw [readVariables_wrong isInteger]
        refine iff_of_false (fun read => by cases read) fun same => isInteger ?_
        have member : (name, value) ∈ result.entries.map integerEntry := by
          rw [← same]
          exact List.mem_append_right _ List.mem_cons_self
        obtain ⟨entry, -, integer⟩ := List.mem_map.1 member
        rw [← (Prod.mk.inj integer).2]
        trivial

end Right

section Document

variable {settings : Settings} {cause : SettingsCause} {failure : LoadFailure}

/-- The check of a document succeeds if the seed, the times and the variables are read. -/
theorem ofEntries_eq_ok_iff_read (rollIs : SectionIs entries "roll" roll)
    (givenIs : SectionIs entries "variables" given) :
    ofEntries path entries = .ok settings ↔ readSeed path roll = .ok settings.seed ∧
      readTimes path roll = .ok ⟨settings.times, settings.times_pos⟩ ∧
      readVariables path .empty given = .ok settings.values := by
  have rollRead := sectionOf_eq_ok_iff.2 rollIs
  have givenRead := sectionOf_eq_ok_iff.2 givenIs
  constructor
  · intro read
    rcases error_or_ok (readSeed path roll) with ⟨_, seedRead⟩ | ⟨seed, seedRead⟩
    · simp only [ofEntries, rollRead, seedRead, reduceCtorEq] at read
    rcases error_or_ok (readTimes path roll) with ⟨_, timesRead⟩ | ⟨times, timesRead⟩
    · simp only [ofEntries, rollRead, seedRead, timesRead, reduceCtorEq] at read
    rcases error_or_ok (readVariables path .empty given) with ⟨_, tableRead⟩ | ⟨table, tableRead⟩
    · simp only [ofEntries, rollRead, seedRead, timesRead, givenRead, tableRead,
        reduceCtorEq] at read
    simp only [ofEntries, rollRead, seedRead, timesRead, givenRead, tableRead] at read
    obtain rfl := Except.ok.inj read
    exact ⟨seedRead, timesRead, tableRead⟩
  · rintro ⟨seedRead, timesRead, tableRead⟩
    simp only [ofEntries, rollRead, seedRead, timesRead, givenRead, tableRead]

/-- The check of a document succeeds with the settings that it describes. -/
theorem ofEntries_eq_ok_iff (gist : Gist entries seed? times? given)
    (distinct : Toml.DistinctEntries entries) :
    ofEntries path entries = .ok settings ↔ Describes seed? times? given settings := by
  obtain ⟨⟨roll, rollIs, rfl, rfl⟩, givenIs⟩ := gist
  have names : ((Table.empty : Table Int).names ++ given.map Prod.fst).Nodup := by
    cases givenIs with
    | absent missing => exact List.nodup_nil
    | table found => exact (Toml.DistinctEntries.of_table (distinct.find? found)).names
  rw [ofEntries_eq_ok_iff_read rollIs givenIs, readSeed_eq_ok_iff, readTimes_eq_ok_iff,
    readVariables_eq_ok_iff names]
  exact ⟨fun ⟨seed, times, values⟩ => ⟨seed, times, values⟩,
    fun ⟨seed, times, values⟩ => ⟨seed, times, values⟩⟩

/-- The check of a document fails at the first that is wrong. -/
theorem ofEntries_eq_error_iff_firstWrong (gist : Gist entries seed? times? given) :
    ofEntries path entries = .error failure ↔
      ∃ cause, FirstWrong seed? times? given cause ∧ failure = .ofCause path cause := by
  obtain ⟨⟨roll, rollIs, rfl, rfl⟩, givenIs⟩ := gist
  rw [ofEntries_eq_error_iff]
  constructor
  · intro first
    cases first with
    | rollSection found wrong => exact absurd (rollIs.isTable found) wrong
    | badSeed otherIs found wrong =>
        obtain rfl := rollIs.unique otherIs
        exact ⟨_, .badSeed found wrong, rfl⟩
    | badTimes otherIs seedFits found wrong =>
        obtain rfl := rollIs.unique otherIs
        exact ⟨_, .badTimes seedFits found wrong, rfl⟩
    | variablesSection otherIs seedFits timesFit found wrong =>
        exact absurd (givenIs.isTable found) wrong
    | badVariable otherIs seedFits timesFit variablesAre fit wrong =>
        obtain rfl := rollIs.unique otherIs
        exact ⟨_, .badVariable seedFits timesFit (givenIs.unique variablesAre) fit wrong, rfl⟩
  · rintro ⟨cause, first, rfl⟩
    cases first with
    | badSeed found wrong => exact .badSeed rollIs found wrong
    | badTimes seedRight found wrong => exact .badTimes rollIs seedRight found wrong
    | badVariable seedRight timesRight split fit wrong =>
        exact .badVariable rollIs seedRight timesRight (split ▸ givenIs) fit wrong

/-- Settings that a document describes are right. -/
theorem Describes.valid (describes : Describes seed? times? given settings) :
    Valid seed? times? given where
  seed := by
    intro value found
    rw [describes.seed] at found
    obtain ⟨number, -, rfl⟩ := Option.map_eq_some_iff.1 found
    trivial
  times := by
    intro value found
    rcases describes.times with same | ⟨none, -⟩
    · obtain rfl := Option.some.inj (same.symm.trans found)
      exact Int.natCast_pos.2 settings.times_pos
    · rw [none] at found
      cases found
  values := by
    intro entry member
    rw [describes.values] at member
    obtain ⟨number, -, rfl⟩ := List.mem_map.1 member
    trivial

/-- Where everything is right there is no first fault. -/
theorem Valid.not_firstWrong (valid : Valid seed? times? given) :
    ¬ FirstWrong seed? times? given cause := by
  intro first
  cases first with
  | badSeed found wrong => exact wrong (valid.seed _ found)
  | badTimes seedRight found wrong => exact wrong (valid.times _ found)
  | @badVariable before after name value seedRight timesRight split fit wrong =>
      refine wrong (valid.values (name, value) ?_)
      rw [split]
      exact List.mem_append_right _ List.mem_cons_self

/-- The settings are read if everything that matters is right. -/
theorem exists_ofEntries_iff (gist : Gist entries seed? times? given)
    (distinct : Toml.DistinctEntries entries) :
    (∃ settings, ofEntries path entries = .ok settings) ↔ Valid seed? times? given := by
  constructor
  · rintro ⟨settings, read⟩
    exact ((ofEntries_eq_ok_iff gist distinct).1 read).valid
  · intro valid
    rcases error_or_ok (ofEntries path entries) with ⟨failure, failed⟩ | read
    · obtain ⟨cause, first, -⟩ := (ofEntries_eq_error_iff_firstWrong gist).1 failed
      exact absurd first valid.not_firstWrong
    · exact read

end Document

section File

variable {surroundings : Surroundings} {content : ByteArray}

/-- The bytes of a text are that text. -/
theorem fromUTF8?_toUTF8 (text : String) : String.fromUTF8? text.toUTF8 = some text := by
  rw [String.fromUTF8?, String.toUTF8_eq_toByteArray, dif_pos text.isValidUTF8]
  rfl

/-- The content of a file is checked as a document with distinct names. -/
theorem load_eq_ofEntries (file : surroundings.look (Path.normal path) = .file content)
    (holds : Holds content entries) :
    (load surroundings path).1 = ofEntries (Path.normal path) entries := by
  obtain ⟨text, decoded, read⟩ := holds
  rw [load_eq_ofBytes file, ofBytes, decoded]
  simp only [ofText, read]

theorem Holds.distinct (holds : Holds content entries) : Toml.DistinctEntries entries := by
  obtain ⟨text, -, read⟩ := holds
  exact Toml.distinct_of_parse read

/-- A document with tables for its sections is accepted if its seed is an integer, its number
of times a positive one and its variables are integers, each where it is given.  The settings
are then what the document says, with the variables in the order of the file.  Otherwise the
failure is about the first that is wrong, in this order; it is reported as a fault unless an
integer in the value found has too many digits to be written out.  The environment changes the
seed of any settings and nothing more. -/
theorem load_document (file : surroundings.look (Path.normal path) = .file content)
    (holds : Holds content entries) (gist : Gist entries seed? times? given) :
    ((∃ settings, (load surroundings path).1 = .ok settings) ↔ Valid seed? times? given) ∧
      (∀ settings, (load surroundings path).1 = .ok settings ↔
        Describes seed? times? given settings) ∧
      (∀ failure, (load surroundings path).1 = .error failure ↔
        ∃ cause, FirstWrong seed? times? given cause ∧
          failure = if ∀ value ∈ cause.integers, Text.Convertible value
            then .faulty (Path.normal path) cause else .unshowable) ∧
      ∀ path?, (resolve surroundings path?).1 = (loadAny surroundings path?).1.map
          (fun loaded => { loaded with seed := surroundings.environmentSeed.or loaded.seed }) ∧
        ∀ settings, (resolve surroundings path?).1 = .ok settings → 1 ≤ settings.times := by
  rw [load_eq_ofEntries file holds]
  refine ⟨exists_ofEntries_iff gist holds.distinct,
    fun settings => ofEntries_eq_ok_iff gist holds.distinct,
    fun failure => ofEntries_eq_error_iff_firstWrong gist,
    fun path? => ⟨?_, fun settings _ => settings.times_pos⟩⟩
  rw [resolve_fst]
  congr 1
  funext loaded
  rw [withSeed.eq_def, ← SeedSetting.seed?_read]
  cases (SeedSetting.read surroundings.seedVariable).seed? <;> rfl

/-- Of three things that are wrong in a file the seed is the fault, although the number of times
stands in front of it. -/
theorem load_document_threeFaults :
    let content := "[roll]\ntimes = 0\nseed = true\n[variables]\nlevel = 'high'\n".toUTF8
    (load (Program.besideSettings content).surroundings fileName).1 =
      .error (.faulty fileName (.badSeed (.bool true))) := by
  intro content
  have normal : Path.normal fileName = fileName := by decide +kernel
  have file := Program.besideSettings_look content
  -- The document is looked into as far as it matters.
  have asExpected : (do
      let entries ← (Toml.parse (Text.lineFeeds
        "[roll]\ntimes = 0\nseed = true\n[variables]\nlevel = 'high'\n".toList)).toOption
      let roll ← (sectionOf entries "roll").toOption
      let given ← (sectionOf entries "variables").toOption
      let seed ← Table.find? "seed" roll
      some (match seed with | .bool truth => truth | _ => false)) = some true := by
    decide +kernel
  simp only [bind, Option.bind_eq_some_iff] at asExpected
  obtain ⟨entries, parsed, roll, isRoll, given, isGiven, seed, isSeed, isTrue⟩ := asExpected
  obtain rfl : seed = .bool true := by
    cases seed with
    | bool truth => exact congrArg Toml.Value.bool (Option.some.inj isTrue)
    | _ => cases isTrue
  have holds : Holds content entries := ⟨_, fromUTF8?_toUTF8 _, eq_ok_of_toOption parsed⟩
  have gist : Gist entries (some (.bool true)) (Table.find? "times" roll) given :=
    ⟨⟨roll, sectionOf_eq_ok_iff.1 (eq_ok_of_toOption isRoll), isSeed, rfl⟩,
      sectionOf_eq_ok_iff.1 (eq_ok_of_toOption isGiven)⟩
  obtain ⟨-, -, failures, -⟩ := load_document file holds gist
  rw [normal] at failures
  exact (failures _).2 ⟨_, .badSeed rfl id, rfl⟩

/-- A seed in an array is wrong, but an integer there that has too many digits keeps it from being
reported. -/
theorem not_settings_or_report_of_longInteger :
    let seed := Toml.Value.array [.integer (10 ^ Text.maxDigits)]
    let entries := [("roll", Toml.Value.table [("seed", seed)])]
    Gist entries (some seed) none [] ∧
      ¬ ((∃ settings, ofEntries fileName entries = .ok settings) ∨
        ∃ cause, ofEntries fileName entries = .error (.faulty fileName cause)) := by
  intro seed entries
  have gist : Gist entries (some seed) none [] := ⟨⟨_, .table rfl, rfl, rfl⟩, .absent rfl⟩
  have long : ¬ Text.Convertible (10 ^ Text.maxDigits) := by
    have ten : Int.natAbs 10 = 10 := rfl
    rw [Text.convertible_iff, Int.natAbs_pow, ten]
    exact Nat.lt_irrefl (10 ^ Text.maxDigits)
  have unshowable {number : Int} (long : ¬ Text.Convertible number) :
      LoadFailure.ofCause fileName (.badSeed (.array [.integer number])) = .unshowable :=
    if_neg fun shown => long (shown number List.mem_cons_self)
  have failed : ofEntries fileName entries = .error .unshowable :=
    (ofEntries_eq_error_iff_firstWrong gist).2 ⟨_, .badSeed rfl id, (unshowable long).symm⟩
  refine ⟨gist, ?_⟩
  rw [failed]
  rintro (⟨settings, same⟩ | ⟨cause, same⟩)
  · cases same
  · cases same

end File

end Settings

end DiceFormula
