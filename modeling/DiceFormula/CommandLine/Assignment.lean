/-
# Variables given on the command line

A variable is given as `NAME=VALUE`.  The first equals sign ends the name, which
must not be empty; the whole rest is the value, an integer as people write it.
Given again, a name keeps its place and takes the new value.
-/

import DiceFormula.Table
import DiceFormula.Text.Numeral
import DiceFormula.Text.Quoted

namespace DiceFormula

inductive AssignmentFault where
  /-- There is no name or no equals sign. -/
  | malformed (item : String)
  /-- The value is not an integer. -/
  | notInteger (name value : String)
deriving DecidableEq

namespace AssignmentFault

def message : AssignmentFault → String
  | malformed item => "expected NAME=VALUE, got " ++ Text.quoted item
  | notInteger name value =>
    "value for " ++ Text.quoted name ++ " must be an integer, got " ++ Text.quoted value

end AssignmentFault

namespace Assignment

/-- The part of an item before its first equals sign. -/
def namePart (item : List Char) : List Char :=
  item.takeWhile (· ≠ '=')

def read (item : String) : Except AssignmentFault (String × Int) :=
  let name := namePart item.toList
  match name, item.toList.drop name.length with
  | _ :: _, '=' :: value =>
    match Text.readInt? value with
    | some value => .ok (String.ofList name, value)
    | none => .error (.notInteger (String.ofList name) (String.ofList value))
  | _, _ => .error (.malformed item)

/-- Sets the variables that items give, one after the other. -/
def readOver (table : Table Int) : List String → Except AssignmentFault (Table Int)
  | [] => .ok table
  | item :: rest =>
    match read item with
    | .error fault => .error fault
    | .ok (name, value) => readOver (table.set name value) rest

/-- Reads items in turn.  The first that is wrong is the one complained about. -/
def readAll (items : List String) : Except AssignmentFault (Table Int) :=
  readOver .empty items

end Assignment

end DiceFormula
