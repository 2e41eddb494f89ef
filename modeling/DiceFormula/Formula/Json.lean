/-
# Formulas as JSON

A formula is an object with its terms and its operators.  Each term is an object
whose names tell its kind: a roll has a count and faces, a literal a value, an
identifier a name.
-/

import DiceFormula.Formula
import DiceFormula.Json.Value

namespace DiceFormula

namespace Term

def toJson : Term → Json
  | roll count faces => .object [("count", .integer count), ("faces", .integer faces)]
  | literal value => .object [("value", .integer value)]
  | identifier name => .object [("name", .string name.text)]

end Term

namespace Operator

def toJson (op : Operator) : Json :=
  .string (String.singleton op.symbol)

end Operator

namespace Formula

def toJson (formula : Formula) : Json :=
  .object [("terms", .array (formula.terms.map Term.toJson)),
    ("operators", .array (formula.operators.map Operator.toJson))]

end Formula

end DiceFormula
