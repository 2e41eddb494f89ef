/-
# TOML values

The values of a document and how they are shown to a reader.  The entries of a
table stay in the order in which they are defined.
-/

import DiceFormula.Decimal.Shortest
import DiceFormula.Text.Quoted
import DiceFormula.Toml.Moment

namespace DiceFormula

namespace Toml

inductive Value where
  | string (text : String)
  | integer (value : Int)
  | decimal (value : Binary64)
  | bool (value : Bool)
  | moment (when : Moment)
  | array (items : List Value)
  | table (entries : List (String × Value))

namespace Value

/-- Numbers with a fraction are written without an exponent from a ten-thousandth
up to ten to the sixteenth; an exponent has two digits at least. -/
def decimalStyle : DecimalStyle := ⟨-4, 16, 2⟩

def isContainer : Value → Bool
  | array _ => true
  | table _ => true
  | _ => false

mutual

def chars : Value → List Char
  | string text => Text.quotedChars text.toList
  | integer value => Text.intDigits value
  | decimal value => value.chars decimalStyle
  | bool true => "True".toList
  | bool false => "False".toList
  | moment when => when.text.toList
  | array [] => ['[', ']']
  | array (item :: rest) => '[' :: chars item ++ itemsChars rest ++ [']']
  | table [] => ['{', '}']
  | table ((name, value) :: rest) =>
    '{' :: Text.quotedChars name.toList ++ ':' :: ' ' :: chars value ++ entriesChars rest ++ ['}']

/-- The items of an array after the first. -/
def itemsChars : List Value → List Char
  | [] => []
  | item :: rest => ',' :: ' ' :: chars item ++ itemsChars rest

/-- The entries of a table after the first. -/
def entriesChars : List (String × Value) → List Char
  | [] => []
  | (name, value) :: rest =>
    ',' :: ' ' :: Text.quotedChars name.toList ++ ':' :: ' ' :: chars value ++ entriesChars rest

end

def text (value : Value) : String :=
  String.ofList value.chars

mutual

/-- The integers in a value in the order in which they are shown. -/
def integers : Value → List Int
  | integer value => [value]
  | array items => itemsIntegers items
  | table entries => entriesIntegers entries
  | _ => []

/-- The integers in the items of an array. -/
def itemsIntegers : List Value → List Int
  | [] => []
  | item :: rest => integers item ++ itemsIntegers rest

/-- The integers in the entries of a table. -/
def entriesIntegers : List (String × Value) → List Int
  | [] => []
  | (_, value) :: rest => integers value ++ entriesIntegers rest

end

end Value

end Toml

end DiceFormula
