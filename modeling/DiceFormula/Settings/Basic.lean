/-
# Settings

What a settings file can say about rolling: a seed, how often a formula is
evaluated, and values of variables.  All of it is optional, and sections and names
that mean nothing here are passed over.  A document with faults is answered with
the first of them: the seed comes before the number of times, and both come before
the variables in the order of the file.
-/

import DiceFormula.Table
import DiceFormula.Text.Lines
import DiceFormula.Toml.Reader

namespace DiceFormula

structure Settings where
  seed : Option Int
  times : Nat
  values : Table Int
  times_pos : 0 < times
deriving DecidableEq

inductive SettingsCause where
  | malformed
  | badSeed (found : Toml.Value)
  | badTimes (found : Toml.Value)
  | badVariable (name : String) (found : Toml.Value)

namespace SettingsCause

/-- The words for a fault, behind the path of the file. -/
def text : SettingsCause → String
  | malformed => "invalid TOML"
  | badSeed found => "[roll] seed must be an integer, got " ++ found.text
  | badTimes found => "[roll] times must be a positive integer, got " ++ found.text
  | badVariable name found =>
    "variable " ++ Text.quoted name ++ " must be an integer, got " ++ found.text

/-- The words for a fault in the file with a path. -/
def message (path : String) (cause : SettingsCause) : String :=
  path ++ ": " ++ cause.text

/-- The integers in the value that a fault shows. -/
def integers : SettingsCause → List Int
  | malformed => []
  | badSeed found => found.integers
  | badTimes found => found.integers
  | badVariable _ found => found.integers

end SettingsCause

/-- Why no settings could be had from a file. -/
inductive LoadFailure where
  /-- The file is not what a settings file should be. -/
  | faulty (path : String) (cause : SettingsCause)
  /-- A section is something other than a table. -/
  | notTable (name : String)
  /-- An integer has too many digits to be read. -/
  | tooManyDigits (count : Nat)
  /-- The value found wrong has an integer of too many digits to be shown. -/
  | unshowable
  /-- The bytes are not text. -/
  | notText
  | missing
  | directory
  | blocked

/-- The failure for a fault in the file with a path.  The value found there has to be
shown, so an integer in it that cannot be written out comes before the fault. -/
def LoadFailure.ofCause (path : String) (cause : SettingsCause) : LoadFailure :=
  if ∀ value ∈ cause.integers, Text.Convertible value then .faulty path cause else .unshowable

namespace Settings

/-- The settings when nothing is said. -/
def default : Settings :=
  ⟨none, 1, .empty, Nat.one_pos⟩

/-- A section of a document; an absent one is empty. -/
def sectionOf (entries : Toml.Entries) (name : String) : Except LoadFailure Toml.Entries :=
  match Table.find? name entries with
  | none => .ok []
  | some (.table inner) => .ok inner
  | some _ => .error (.notTable name)

/-- The seed that a section gives. -/
def readSeed (path : String) (roll : Toml.Entries) : Except LoadFailure (Option Int) :=
  match Table.find? "seed" roll with
  | none => .ok none
  | some (.integer value) => .ok (some value)
  | some found => .error (.ofCause path (.badSeed found))

/-- The number of times that a section gives. -/
def readTimes (path : String) (roll : Toml.Entries) :
    Except LoadFailure { times : Nat // 0 < times } :=
  match Table.find? "times" roll with
  | none => .ok ⟨1, Nat.one_pos⟩
  | some (.integer value) =>
    if h : 0 < value.toNat then .ok ⟨value.toNat, h⟩
    else .error (.ofCause path (.badTimes (.integer value)))
  | some found => .error (.ofCause path (.badTimes found))

/-- Sets the variables that a section gives, in the order of the file. -/
def readVariables (path : String) (table : Table Int) :
    Toml.Entries → Except LoadFailure (Table Int)
  | [] => .ok table
  | (name, .integer value) :: rest => readVariables path (table.set name value) rest
  | (name, found) :: _ => .error (.ofCause path (.badVariable name found))

def ofEntries (path : String) (entries : Toml.Entries) : Except LoadFailure Settings :=
  match sectionOf entries "roll" with
  | .error failure => .error failure
  | .ok roll =>
    match readSeed path roll with
    | .error failure => .error failure
    | .ok seed =>
      match readTimes path roll with
      | .error failure => .error failure
      | .ok times =>
        match sectionOf entries "variables" with
        | .error failure => .error failure
        | .ok given =>
          match readVariables path .empty given with
          | .error failure => .error failure
          | .ok table => .ok ⟨seed, times.val, table, times.property⟩

/-- The settings that the text of a file gives. -/
def ofText (path : String) (text : List Char) : Except LoadFailure Settings :=
  match Toml.parse text with
  | .error .malformed => .error (.faulty path .malformed)
  | .error (.tooManyDigits count) => .error (.tooManyDigits count)
  | .ok entries => ofEntries path entries

/-- The settings that the bytes of a file give. -/
def ofBytes (path : String) (content : ByteArray) : Except LoadFailure Settings :=
  match String.fromUTF8? content with
  | none => .error .notText
  | some text => ofText path (Text.lineFeeds text.toList)

end Settings

end DiceFormula
