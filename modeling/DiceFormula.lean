import DiceFormula.Text.Quoted
import DiceFormula.Text.Columns
import DiceFormula.Text.Digits
import DiceFormula.Text.Numeral
import DiceFormula.Formula.Diagnostic
import DiceFormula.Dice.Seeded
import DiceFormula.Variables
import DiceFormula.Evaluation
import DiceFormula.Json.Printer
import DiceFormula.Json.Reader
import DiceFormula.Formula.Json
import DiceFormula.Formula.Rows
import DiceFormula.Session
import DiceFormula.Formula.Schema
import DiceFormula.CommandLine.Assignment
import DiceFormula.Toml.Document
import DiceFormula.Toml.Reader
import DiceFormula.Settings.Resolve
import DiceFormula.Text.Wrapping
import DiceFormula.CommandLine.Program
import DiceFormula.Main
import DiceFormula.Proofs.DigitRuns
import DiceFormula.Proofs.TermReading
import DiceFormula.Proofs.Grammar
import DiceFormula.Proofs.FaultPlaces
import DiceFormula.Proofs.Outcomes
import DiceFormula.Proofs.TwoPhases
import DiceFormula.Proofs.Requests
import DiceFormula.Proofs.DecimalSpelling
import DiceFormula.Proofs.RoundTrip
import DiceFormula.Proofs.CanonicalText
import DiceFormula.Proofs.SharedSource
import DiceFormula.Proofs.ReplayRuns
import DiceFormula.Proofs.Answered
import DiceFormula.Proofs.ResultRange
import DiceFormula.Proofs.BreakingOff
import DiceFormula.Proofs.TwoRuns
import DiceFormula.Proofs.GuardedEvaluation
import DiceFormula.Proofs.TextEvaluation
import DiceFormula.Proofs.JsonRoundTrip
import DiceFormula.Proofs.FormulaJson
import DiceFormula.Proofs.FormulaTable
import DiceFormula.Proofs.SettingsFaults
import DiceFormula.Proofs.Exhaustion
import DiceFormula.Proofs.JoinedText
import DiceFormula.Proofs.Overriding
import DiceFormula.Proofs.RollStream
import DiceFormula.Proofs.DiceTotals
import DiceFormula.Proofs.Division
import DiceFormula.Proofs.MergedLayers
import DiceFormula.Proofs.SeededDraws
import DiceFormula.Proofs.NestedChains
import DiceFormula.Proofs.Assignments
import DiceFormula.Proofs.JsonFields
import DiceFormula.Proofs.UntaggedTerms
import DiceFormula.Proofs.DistinctNames
import DiceFormula.Proofs.SettingsDocument
import DiceFormula.Proofs.Summaries
import DiceFormula.Proofs.LengthFirst
import DiceFormula.Proofs.FaultMark
import DiceFormula.Proofs.PlainText
import DiceFormula.Proofs.WrappedText
import DiceFormula.Proofs.FailureMessages
import DiceFormula.Proofs.DrawnTable
