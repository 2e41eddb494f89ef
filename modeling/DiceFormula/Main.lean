/-
# The program

Gathers what the program is run in, runs it, and prints the result.  Reports go to
standard output; command lines that cannot be used and runs that are broken off are
explained on standard error.
-/

import DiceFormula.CommandLine.Program

open DiceFormula

/-- What stands at a path on disk. -/
def lookOnDisk (path : String) : IO Found := do
  try
    let content ← IO.FS.readBinFile path
    pure (.file content)
  catch
    | .noFileOrDirectory .. => pure .missing
    | _ => pure .directory

/-- What is said about a run that was broken off. -/
def explainBreakOff : BreakOff → String
  | .load (.faulty path cause) => cause.message path
  | .load (.notTable name) => "[" ++ name ++ "] is not a table"
  | .load (.tooManyDigits count) => "an integer of " ++ count.repr ++ " digits is too long"
  | .load .unshowable => "a setting is wrong and too long to be shown"
  | .load .notText => "the settings file is not text"
  | .load .missing => "the settings file is missing"
  | .load .directory => "the settings file is a directory"
  | .load .blocked => "the settings file cannot be reached"
  | .draw failure => failure.message

/-- Looks at the paths that a run may ask for, and nowhere else. -/
def lookAhead (paths : List String) : IO (String → Found) := do
  let found ← paths.mapM fun path => do pure (path, ← lookOnDisk path)
  pure fun path => (Table.find? path found).getD .missing

def main (arguments : List String) : IO UInt32 := do
  let directory := (← IO.currentDir).toString
  let named := (Request.settingsPath? arguments).toList
  let look ← lookAhead
    (Path.child directory Settings.fileName :: named ++ named.map Path.normal)
  let surroundings : Surroundings :=
    ⟨directory, look, ← IO.getEnv SeedSetting.variableName⟩
  let width := ((← IO.getEnv "COLUMNS").bind String.toNat?).getD 80
  let context : ProgramContext := ⟨surroundings, width, ← IO.rand 0 4294967295⟩
  match Program.run context arguments with
  | .error cause =>
    IO.eprintln (explainBreakOff cause)
    pure 1
  | .ok result =>
    if let some fault := result.complaint then
      IO.eprintln ("Error: " ++ fault.message)
    for line in result.lines do
      IO.println line
    pure result.exitCode.toUInt32
