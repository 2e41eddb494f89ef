/-
# Layered variables

The value of an identifier is looked up in a tree of tables: a chain asks its
members in turn and takes the first value.  An entry may say that a name has no
value; it then counts as if it were missing, and later members are asked.
-/

import DiceFormula.Table
import DiceFormula.Text.Digits
import DiceFormula.Text.Quoted

namespace DiceFormula

/-- A table in which a name may be present without a value. -/
abbrev Layer := Table (Option Int)

namespace Layer

/-- The value of a name, if the layer has one. -/
def resolve (layer : Layer) (name : String) : Option Int :=
  (layer.get? name).join

def describeEntry (entry : String × Option Int) : String :=
  Text.quoted entry.1 ++ ": " ++
    match entry.2 with
    | none => "None"
    | some value => Text.intText value

def describe (layer : Layer) : String :=
  "\x7b" ++ String.intercalate ", " (layer.entries.map describeEntry) ++ "\x7d"

/-- The layer that gives exactly the values of a table. -/
def ofTable (table : Table Int) : Layer :=
  table.map some

end Layer

/-- A layer, or a chain of such that is asked from left to right. -/
inductive Variables where
  | layer (entries : Layer)
  | chain (members : List Variables)

namespace Variables

instance : Inhabited Variables := ⟨chain []⟩

mutual

/-- The first value that a tree has for a name. -/
def resolve : Variables → String → Option Int
  | layer entries, name => entries.resolve name
  | chain members, name => resolveFirst members name

/-- The first value that the members of a chain have for a name. -/
def resolveFirst : List Variables → String → Option Int
  | [], _ => none
  | member :: rest, name =>
    match member.resolve name with
    | some value => some value
    | none => resolveFirst rest name

end

mutual

/-- The layers of a tree from left to right. -/
def leaves : Variables → List Layer
  | layer entries => [entries]
  | chain members => leavesOf members

/-- The layers of all members of a chain from left to right. -/
def leavesOf : List Variables → List Layer
  | [] => []
  | member :: rest => member.leaves ++ leavesOf rest

end

/-- A chain of layers without further nesting. -/
def ofLayers (layers : List Layer) : Variables :=
  chain (layers.map layer)

end Variables

end DiceFormula
