/-
# What a command line asks for

There are two commands, `parse` and `roll`, each with one formula and options of
its own; options of the program as a whole stand in front of the command.  A
command line that cannot be used is turned down before anything is done.
-/

import DiceFormula.CommandLine.Options
import DiceFormula.Settings.FileTree
import DiceFormula.Text.Digits

namespace DiceFormula

structure RollOptions where
  assignments : List String
  seed : Option Int
  times : Option Nat
  settingsFile : Option String
deriving DecidableEq

inductive Request where
  | version
  | parse (formula : String) (asJson : Bool)
  | roll (formula : String) (options : RollOptions)
deriving DecidableEq

namespace Request

inductive ProgramOption where
  | version
  | verbose
deriving DecidableEq

inductive ParseOption where
  | json
deriving DecidableEq

inductive RollOption where
  | assignment
  | seed
  | times
  | settingsFile
deriving DecidableEq

/-- How the options of the program are written. -/
def programSpecs : List (OptionSpec ProgramOption) :=
  [⟨.version, "--version", none, false⟩, ⟨.verbose, "--verbose", none, false⟩]

def parseSpecs : List (OptionSpec ParseOption) :=
  [⟨.json, "--json", none, false⟩]

def rollSpecs : List (OptionSpec RollOption) :=
  [⟨.assignment, "--var", some 'V', true⟩, ⟨.seed, "--seed", some 's', true⟩,
    ⟨.times, "--times", some 'n', true⟩, ⟨.settingsFile, "--config", some 'c', true⟩]

/-- The one argument that a command takes. -/
def onlyArgument : List String → Except UsageFault String
  | [] => .error .argumentMissing
  | [argument] => .ok argument
  | _ => .error .tooManyArguments

/-- The value of an option that takes an integer. -/
def readSeed : Option String → Except UsageFault (Option Int)
  | none => .ok none
  | some text =>
    match Text.readInt? text.toList with
    | some value => .ok (some value)
    | none => .error (.notInteger text)

/-- The value of an option that takes a positive integer. -/
def readTimes : Option String → Except UsageFault (Option Nat)
  | none => .ok none
  | some text =>
    match Text.readInt? text.toList with
    | some value => if value < 1 then .error (.notPositive value) else .ok (some value.toNat)
    | none => .error (.notInteger text)

/-- The value of an option that takes the path of a file. -/
def readFile (look : String → Found) : Option String → Except UsageFault (Option String)
  | none => .ok none
  | some path =>
    match look path with
    | .file _ => .ok (some path)
    | _ => .error (.noSuchFile path)

def readParse (arguments : List String) : Except UsageFault Request := do
  let scanned ← OptionSpec.scan parseSpecs true arguments
  let formula ← onlyArgument scanned.arguments
  pure (.parse formula (scanned.has .json))

def readRoll (look : String → Found) (arguments : List String) : Except UsageFault Request := do
  let scanned ← OptionSpec.scan rollSpecs true arguments
  let formula ← onlyArgument scanned.arguments
  let seed ← readSeed (scanned.last? .seed)
  let times ← readTimes (scanned.last? .times)
  let settingsFile ← readFile look (scanned.last? .settingsFile)
  pure (.roll formula ⟨scanned.values .assignment, seed, times, settingsFile⟩)

def readCommand (look : String → Found) : List String → Except UsageFault Request
  | [] => .error .commandMissing
  | name :: arguments =>
    if name = "parse" then readParse arguments
    else if name = "roll" then readRoll look arguments
    else .error (.unknownCommand name)

/-- Reads a command line.  A request for the version wins over the command, which is
then not looked at. -/
def read (look : String → Found) (arguments : List String) : Except UsageFault Request := do
  let scanned ← OptionSpec.scan programSpecs false arguments
  if scanned.has .version then pure .version
  else readCommand look scanned.arguments

/-- The path of the settings file that a command line names, if it names one. -/
def settingsPath? (arguments : List String) : Option String :=
  match OptionSpec.scan programSpecs false arguments with
  | .ok ⟨_, _ :: rest⟩ =>
    match OptionSpec.scan rollSpecs true rest with
    | .ok scanned => scanned.last? .settingsFile
    | .error _ => none
  | _ => none

end Request

namespace UsageFault

def message : UsageFault → String
  | unknownOption argument => "no such option: " ++ argument
  | valueMissing argument => "option " ++ argument ++ " takes a value"
  | valueNotTaken argument => "option takes no value: " ++ argument
  | commandMissing => "missing command"
  | unknownCommand name => "no such command: " ++ name
  | argumentMissing => "missing formula"
  | tooManyArguments => "unexpected further argument"
  | notInteger text => "not an integer: " ++ Text.quoted text
  | notPositive value => "not a positive integer: " ++ Text.intText value
  | noSuchFile path => "no such file: " ++ path
  | badAssignment fault => fault.message

end UsageFault

end DiceFormula
