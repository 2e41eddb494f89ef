/-
# Showing where a formula goes wrong

A diagnostic keeps the whole source together with the place and the expectation,
so that it can show the source line with a mark under the offending character.
-/

import DiceFormula.Formula.Parser

namespace DiceFormula

/-- A syntax fault together with the text it was found in.  The position is an
integer so that a diagnostic can be written down by hand for any place. -/
structure Diagnostic where
  source : String
  position : Int
  expected : String
deriving DecidableEq

namespace Diagnostic

/-- The diagnostic of a fault found in a source. -/
def ofFault (source : String) (fault : SyntaxFault) : Diagnostic :=
  ⟨source, fault.position, fault.expected.text⟩

def message (diagnostic : Diagnostic) : String :=
  "expected " ++ diagnostic.expected ++ " at position " ++
    Text.intText diagnostic.position

/-- What stands in front of the source line. -/
def margin : List Char := [' ', ' ', '|', ' ']

/-- The mark under the position; places left of the line's margin have none to spare. -/
def markChars (diagnostic : Diagnostic) : List Char :=
  List.replicate (margin.length + diagnostic.position).toNat ' ' ++ ['^']

/-- The source behind its margin, and the mark on a line of its own. -/
def snippetChars (diagnostic : Diagnostic) : List Char :=
  margin ++ diagnostic.source.toList ++ '\n' :: diagnostic.markChars

/-- The source line with a mark under the position. -/
def snippet (diagnostic : Diagnostic) : String :=
  String.ofList diagnostic.snippetChars

def text (diagnostic : Diagnostic) : String :=
  diagnostic.message ++ "\n" ++ diagnostic.snippet

end Diagnostic

end DiceFormula
