/-
# Options on a command line

Options begin with a dash.  A long option has a name of its own and takes its value
from behind an equals sign or from the next argument, whatever that looks like.
One-letter options may be written together behind one dash; one that takes a value
takes the rest of its argument, or the next argument if there is no rest.  Two
dashes alone end the options, and a dash alone is an ordinary argument.
-/

import DiceFormula.CommandLine.Assignment

namespace DiceFormula

inductive UsageFault where
  | unknownOption (argument : String)
  | valueMissing (argument : String)
  | valueNotTaken (argument : String)
  | commandMissing
  | unknownCommand (name : String)
  | argumentMissing
  | tooManyArguments
  | notInteger (text : String)
  | notPositive (value : Int)
  | noSuchFile (path : String)
  | badAssignment (fault : AssignmentFault)
deriving DecidableEq

/-- An option: what it stands for, its name with both dashes, its letter, and whether
it takes a value. -/
structure OptionSpec (α : Type) where
  meaning : α
  name : String
  letter : Option Char
  takesValue : Bool

/-- The options of a command line in order, with their values, and the arguments that
are not options. -/
structure ScannedArguments (α : Type) where
  options : List (α × String)
  arguments : List String

namespace OptionSpec

variable {α : Type}

/-- What one argument says: options that are complete, and perhaps a last one that
takes the next argument for its value. -/
structure Mention (α : Type) where
  complete : List (α × String)
  waiting : Option α

/-- Whether an argument holds options. -/
def isOption (argument : String) : Bool :=
  match argument.toList with
  | '-' :: _ :: _ => true
  | _ => false

def withName? (specs : List (OptionSpec α)) (name : String) : Option (OptionSpec α) :=
  specs.find? fun spec => spec.name = name

def withLetter? (specs : List (OptionSpec α)) (letter : Char) : Option (OptionSpec α) :=
  specs.find? fun spec => spec.letter = some letter

def readLetters (specs : List (OptionSpec α)) (argument : String) :
    List Char → Except UsageFault (Mention α)
  | [] => .ok ⟨[], none⟩
  | letter :: rest =>
    match withLetter? specs letter with
    | none => .error (.unknownOption argument)
    | some spec =>
      if spec.takesValue then
        if rest.isEmpty then .ok ⟨[], some spec.meaning⟩
        else .ok ⟨[(spec.meaning, String.ofList rest)], none⟩
      else
        match readLetters specs argument rest with
        | .error fault => .error fault
        | .ok mention => .ok ⟨(spec.meaning, "") :: mention.complete, mention.waiting⟩

/-- Splits an argument at its first equals sign. -/
def splitValue (argument : String) : String × Option String :=
  let chars := argument.toList
  let name := chars.takeWhile (· ≠ '=')
  match chars.drop name.length with
  | [] => (argument, none)
  | _ :: value => (String.ofList name, some (String.ofList value))

def readMention (specs : List (OptionSpec α)) (argument : String) :
    Except UsageFault (Mention α) :=
  let (name, value?) := splitValue argument
  match withName? specs name, value? with
  | some spec, some value =>
    if spec.takesValue then .ok ⟨[(spec.meaning, value)], none⟩
    else .error (.valueNotTaken argument)
  | some spec, none =>
    if spec.takesValue then .ok ⟨[], some spec.meaning⟩
    else .ok ⟨[(spec.meaning, "")], none⟩
  | none, _ =>
    match argument.toList with
    | '-' :: '-' :: _ => .error (.unknownOption argument)
    | _ :: letters => readLetters specs argument letters
    | [] => .error (.unknownOption argument)

/-- Puts options in front of what was scanned. -/
def addOptions (found : List (α × String)) (scanned : ScannedArguments α) : ScannedArguments α :=
  ⟨found ++ scanned.options, scanned.arguments⟩

/-- Puts an argument in front of what was scanned. -/
def addArgument (argument : String) (scanned : ScannedArguments α) : ScannedArguments α :=
  ⟨scanned.options, argument :: scanned.arguments⟩

/-- Separates options from other arguments.  Where `mixed` does not allow options
behind other arguments, everything from the first of those on is left as it is. -/
def scan (specs : List (OptionSpec α)) (mixed : Bool) :
    List String → Except UsageFault (ScannedArguments α)
  | [] => .ok ⟨[], []⟩
  | argument :: rest =>
    if argument = "--" then .ok ⟨[], rest⟩
    else if isOption argument then
      match readMention specs argument with
      | .error fault => .error fault
      | .ok ⟨complete, none⟩ => (scan specs mixed rest).map (addOptions complete)
      | .ok ⟨complete, some meaning⟩ =>
        match rest with
        | [] => .error (.valueMissing argument)
        | value :: rest =>
          (scan specs mixed rest).map (addOptions (complete ++ [(meaning, value)]))
    else if mixed then (scan specs mixed rest).map (addArgument argument)
    else .ok ⟨[], argument :: rest⟩

end OptionSpec

namespace ScannedArguments

variable {α : Type} [DecidableEq α]

def values (scanned : ScannedArguments α) (meaning : α) : List String :=
  scanned.options.filterMap fun option =>
    if option.1 = meaning then some option.2 else none

def has (scanned : ScannedArguments α) (meaning : α) : Bool :=
  !(scanned.values meaning).isEmpty

def last? (scanned : ScannedArguments α) (meaning : α) : Option String :=
  (scanned.values meaning).getLast?

end ScannedArguments

end DiceFormula
