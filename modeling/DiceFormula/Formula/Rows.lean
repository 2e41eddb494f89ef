/-
# A formula as a table

The rows under which a formula is shown: a row for each term, numbered from zero,
and between two of them a row for the operator that joins them.
-/

import DiceFormula.Formula

namespace DiceFormula

/-- One row: the number of a term or nothing, what stands in the row, and its text. -/
structure FormulaRow where
  number : String
  kind : String
  text : String
deriving DecidableEq

namespace Term

def kind : Term → String
  | roll .. => "roll"
  | literal _ => "integer"
  | identifier _ => "identifier"

def row (term : Term) (number : Nat) : FormulaRow :=
  ⟨number.repr, term.kind, term.text⟩

end Term

namespace Operator

def row (op : Operator) : FormulaRow :=
  ⟨"", "operator", String.singleton op.symbol⟩

end Operator

namespace Formula

/-- The rows of steps whose first term has the given number. -/
def stepRows (number : Nat) : List (Operator × Term) → List FormulaRow
  | [] => []
  | (op, term) :: rest => op.row :: term.row number :: stepRows (number + 1) rest

/-- The rows of a formula from top to bottom. -/
def rows (formula : Formula) : List FormulaRow :=
  formula.first.row 0 :: stepRows 1 formula.steps

/-- The lines that sum a formula up: its identifiers, if it has any, and whether it
gives the same value every time. -/
def summary (formula : Formula) : List String :=
  let names := formula.identifiers.map Name.text
  let identifiers := if names.isEmpty then [] else ["Identifiers: " ++ String.intercalate ", " names]
  identifiers ++ ["Deterministic: " ++ if formula.isDeterministic then "yes" else "no"]

end Formula

end DiceFormula
