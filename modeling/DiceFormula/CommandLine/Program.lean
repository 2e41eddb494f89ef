/-
# Carrying out a request

`run` is the whole program as a function: from a command line and the surroundings
it is called in to the lines it prints and its exit code.  A request that cannot be
used ends with the code two and prints nothing; a formula, settings or an evaluation
that go wrong are reported and end with the code one.  Repeated rolls go on with the
same source, and what was printed before a failure stays printed.
-/

import DiceFormula.CommandLine.Request
import DiceFormula.Dice.Seeded
import DiceFormula.Evaluation
import DiceFormula.Formula.Diagnostic
import DiceFormula.Formula.Json
import DiceFormula.Formula.Rows
import DiceFormula.Json.Printer
import DiceFormula.Settings.Resolve
import DiceFormula.Text.Grid
import DiceFormula.Variables

namespace DiceFormula

structure Release where
  name : String
  version : String

namespace Release

def current : Release := ⟨"dicexpr", "0.1.0"⟩

/-- The version when nothing is known about the installation. -/
def unknownVersion : String := "0.0.0"

/-- The version to show, depending on whether the program is installed. -/
def shownVersion (installed : Bool) : String :=
  if installed then current.version else unknownVersion

end Release

structure ProgramContext where
  surroundings : Surroundings
  columns : Nat
  /-- The seed to use when none is given anywhere. -/
  freshSeed : Int

/-- Why a run was broken off without a report. -/
inductive BreakOff where
  | load (failure : LoadFailure)
  | draw (failure : DrawFailure)

/-- What a run prints, its exit code, and what was wrong with the command line. -/
structure ProgramResult where
  lines : List String
  exitCode : Nat
  complaint : Option UsageFault
deriving DecidableEq

namespace Program

def success (lines : List String) : ProgramResult :=
  ⟨lines, 0, none⟩

/-- The result of a run that reports a failure. -/
def failure (lines : List String) : ProgramResult :=
  ⟨lines, 1, none⟩

/-- The result of a run whose command line cannot be used. -/
def usage (fault : UsageFault) : ProgramResult :=
  ⟨[], 2, some fault⟩

def displayed (width : Nat) (text : String) : List String :=
  (Text.wrap width text.toList).map String.ofList

/-- Whether a square bracket opens something that looks like a style in brackets. -/
def opensStyle : List Char → Bool
  | '[' :: c :: rest =>
    (('a' ≤ c && c ≤ 'z') || c = '#' || c = '/' || c = '@') &&
      (rest.dropWhile fun d => d ≠ ']' && d ≠ '[').head? = some ']'
  | _ => false

/-- A report passes through a display in which a backslash takes the meaning from an
opening bracket.  In front of one without a meaning it is lost. -/
def withoutBracketEscapes : List Char → List Char
  | '\\' :: '[' :: rest =>
    if opensStyle ('[' :: rest) then '\\' :: '[' :: withoutBracketEscapes rest
    else '[' :: withoutBracketEscapes rest
  | c :: rest => c :: withoutBracketEscapes rest
  | [] => []

/-- A report: what went wrong and the message about it. -/
def report (width : Nat) (what message : String) : List String :=
  displayed width (what ++ ": " ++ String.ofList (withoutBracketEscapes message.toList))

/-- What is printed about a formula that cannot be read. -/
def syntaxReport (width : Nat) (diagnostic : Diagnostic) : List String :=
  report width "Syntax error" diagnostic.message ++ displayed width diagnostic.snippet

def tableColumns : List Text.GridColumn :=
  [⟨"#".toList, true⟩, ⟨"Kind".toList, false⟩, ⟨"Text".toList, false⟩]

def tableOf (formula : Formula) : Text.Grid :=
  ⟨formula.chars, tableColumns,
    formula.rows.map fun row => [row.number.toList, row.kind.toList, row.text.toList]⟩

/-- What `parse` prints about a formula, on a display that has room for its table. -/
def parseLines (width : Nat) (formula : Formula) : List String :=
  (tableOf formula).lines.map String.ofList ++ formula.summary.flatMap (displayed width)

/-- What `parse` prints about a formula as JSON. -/
def jsonLines (formula : Formula) : List String :=
  (Text.lines (formula.toJson.chars (some 0))).map String.ofList

def runParse (width : Nat) (source : String) (asJson : Bool) : ProgramResult :=
  match Formula.parse source with
  | .error fault => failure (syntaxReport width (.ofFault source fault))
  | .ok formula => success (if asJson then jsonLines formula else parseLines width formula)

/-- Evaluates a formula a number of times, each time going on with the source as the
last time left it.  `printed` is what was printed so far, the latest first. -/
def rollTimes {σ : Type} [RandomSource σ] (width : Nat) (formula : Formula)
    (lookup : String → Option Int) :
    Nat → (printed : List String) → σ → Except BreakOff ProgramResult
  | 0, printed, _ => .ok (success printed.reverse)
  | times + 1, printed, source =>
    match formula.evaluate lookup (.start source) with
    | (.error failure, _) => .error (.draw failure)
    | (.ok (.error error), _) =>
      .ok (failure (printed.reverse ++ report width "Evaluation failed" error.message))
    | (.ok (.ok value), play) =>
      rollTimes width formula lookup times (Text.intText value :: printed) play.source

/-- The look-up of a roll: the settings' variables with those of the command line over
them. -/
def rollLookup (settings : Settings) (assigned : Table Int) : String → Option Int :=
  (Layer.ofTable (settings.values.overlay assigned)).resolve

/-- Rolls a formula with the settings in effect. -/
def rollWith (context : ProgramContext) (formula : Formula) (options : RollOptions)
    (assigned : Table Int) (settings : Settings) : Except BreakOff ProgramResult :=
  let seed := (options.seed <|> settings.seed).getD context.freshSeed
  rollTimes context.columns formula (rollLookup settings assigned)
    (options.times.getD settings.times) [] (SeededSource.start seed)

def runRoll (context : ProgramContext) (source : String) (options : RollOptions) :
    Except BreakOff ProgramResult :=
  match Formula.parse source with
  | .error fault => .ok (failure (syntaxReport context.columns (.ofFault source fault)))
  | .ok formula =>
    match Assignment.readAll options.assignments with
    | .error fault => .ok (usage (.badAssignment fault))
    | .ok assigned =>
      match (Settings.resolve context.surroundings options.settingsFile).1 with
      | .error (.faulty path cause) =>
        .ok (failure (report context.columns "Config error" (cause.message path)))
      | .error failure => .error (.load failure)
      | .ok settings => rollWith context formula options assigned settings

def run (context : ProgramContext) (arguments : List String) : Except BreakOff ProgramResult :=
  match Request.read context.surroundings.look arguments with
  | .error fault => .ok (usage fault)
  | .ok .version => .ok (success [Release.current.name ++ " " ++ Release.current.version])
  | .ok (.parse source asJson) => .ok (runParse context.columns source asJson)
  | .ok (.roll source options) => runRoll context source options

end Program

end DiceFormula
