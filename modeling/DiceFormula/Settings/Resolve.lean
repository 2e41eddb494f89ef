/-
# Settings from file and environment

Settings come from a file, which is looked for in the working directory unless its
path is given, and a seed in the environment takes the place of the file's.  What
was done on the way is logged.
-/

import DiceFormula.Settings.Basic
import DiceFormula.Settings.FileTree
import DiceFormula.Text.Numeral

namespace DiceFormula

/-- How important a log entry is. -/
inductive LogLevel where
  | debug
  | warning
deriving DecidableEq

structure LogEntry where
  level : LogLevel
  message : String
deriving DecidableEq

/-- What the environment says about the seed. -/
inductive SeedSetting where
  | unset
  | seed (value : Int)
  | notInteger (text : String)
deriving DecidableEq

namespace SeedSetting

def variableName : String := "DICEXPR_SEED"

/-- Reads the value of the environment variable.  A blank one counts as unset. -/
def read (value? : Option String) : SeedSetting :=
  let text := Text.trim Text.isBlank (value?.getD "").toList
  if text.isEmpty then .unset
  else
    match Text.readInt? text with
    | some value => .seed value
    | none => .notInteger (String.ofList text)

def seed? : SeedSetting → Option Int
  | seed value => some value
  | _ => none

/-- What is logged while the variable is read. -/
def readLog : SeedSetting → List LogEntry
  | notInteger text =>
    [⟨.warning, "Ignoring non-integer " ++ variableName ++ " value '" ++ text ++ "'"⟩]
  | _ => []

/-- What is logged when the seed is put to use. -/
def useLog : SeedSetting → List LogEntry
  | seed value => [⟨.debug, "Seed " ++ Text.intText value ++ " taken from " ++ variableName⟩]
  | _ => []

end SeedSetting

/-- Where settings are looked for. -/
structure Surroundings where
  directory : String
  /-- What stands at a path. -/
  look : String → Found
  /-- The value of the environment variable for the seed. -/
  seedVariable : Option String

namespace Settings

def fileName : String := "dicexpr.toml"

/-- What is logged about settings read from a file. -/
def loadedLog (path : String) (settings : Settings) : LogEntry :=
  let seed := match settings.seed with
    | none => "None"
    | some value => Text.intText value
  ⟨.debug, "Loaded " ++ path ++ ": seed=" ++ seed ++ " times=" ++ settings.times.repr ++
    " variables=" ++ settings.values.entries.length.repr⟩

/-- The settings in the file with a path, and the log. -/
def load (surroundings : Surroundings) (path : String) :
    Except LoadFailure Settings × List LogEntry :=
  let path := Path.normal path
  match surroundings.look path with
  | .file content =>
    match ofBytes path content with
    | .ok settings => (.ok settings, [loadedLog path settings])
    | .error failure => (.error failure, [])
  | .directory => (.error .directory, [])
  | .missing => (.error .missing, [])
  | .blocked => (.error .blocked, [])

/-- The path of the settings file in a directory, if there is such a file. -/
def find? (surroundings : Surroundings) (directory : String) : Option String :=
  let candidate := Path.child directory fileName
  match surroundings.look candidate with
  | .file _ => some candidate
  | _ => none

/-- The file's settings with the seed of the environment over the file's. -/
def withSeed (settings : Settings) (setting : SeedSetting) : Settings :=
  match setting.seed? with
  | some value => ⟨some value, settings.times, settings.values, settings.times_pos⟩
  | none => settings

/-- The settings in the file that is given or found, if any. -/
def loadAny (surroundings : Surroundings) (path? : Option String) :
    Except LoadFailure Settings × List LogEntry :=
  match path? <|> find? surroundings surroundings.directory with
  | some path => load surroundings path
  | none => (.ok default, [])

def resolve (surroundings : Surroundings) (path? : Option String) :
    Except LoadFailure Settings × List LogEntry :=
  match loadAny surroundings path? with
  | (.error failure, log) => (.error failure, log)
  | (.ok settings, log) =>
    let setting := SeedSetting.read surroundings.seedVariable
    (.ok (settings.withSeed setting), log ++ setting.readLog ++ setting.useLog)

end Settings

end DiceFormula
