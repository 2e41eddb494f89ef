/-
# Writing JSON

Two layouts: compact without any space, and indented by two spaces a level with
one item on a line.  Empty arrays and objects are written without a break in
both.
-/

import DiceFormula.Decimal.Shortest
import DiceFormula.Json.Value

namespace DiceFormula

namespace Json

def escapedChar (c : Char) : List Char :=
  if c = '"' then ['\\', '"']
  else if c = '\\' then ['\\', '\\']
  else if c = '\n' then ['\\', 'n']
  else if c = '\r' then ['\\', 'r']
  else if c = '\t' then ['\\', 't']
  else if c = '\x08' then ['\\', 'b']
  else if c = '\x0c' then ['\\', 'f']
  else if c.toNat < 0x20 then '\\' :: 'u' :: (Nat.toDigits 16 c.toNat).leftpad 4 '0'
  else [c]

def stringChars (text : String) : List Char :=
  '"' :: text.toList.flatMap escapedChar ++ ['"']

/-- Numbers with a fraction keep it while they are short. -/
def decimalStyle : DecimalStyle := ⟨-5, 16, 1⟩

/-- The break before an item at a level: nothing in the compact layout. -/
def lineBreak : Option Nat → List Char
  | none => []
  | some level => '\n' :: List.replicate (2 * level) ' '

/-- What separates a name from its value. -/
def nameSeparator : Option Nat → List Char
  | none => [':']
  | some _ => [':', ' ']

mutual

/-- A value at a level of indentation, `none` for the compact layout. -/
def chars (level : Option Nat) : Json → List Char
  | null => "null".toList
  | bool true => "true".toList
  | bool false => "false".toList
  | integer value => Text.intDigits value
  | decimal value => value.chars decimalStyle
  | string value => stringChars value
  | array [] => ['[', ']']
  | array (item :: rest) =>
    let inner := level.map (· + 1)
    '[' :: lineBreak inner ++ chars inner item ++ itemsChars inner rest ++
      lineBreak level ++ [']']
  | object [] => ['{', '}']
  | object ((name, value) :: rest) =>
    let inner := level.map (· + 1)
    '{' :: lineBreak inner ++ stringChars name ++ nameSeparator inner ++ chars inner value ++
      membersChars inner rest ++ lineBreak level ++ ['}']

/-- The items of an array after the first. -/
def itemsChars (level : Option Nat) : List Json → List Char
  | [] => []
  | item :: rest => ',' :: lineBreak level ++ chars level item ++ itemsChars level rest

/-- The members of an object after the first. -/
def membersChars (level : Option Nat) : List (String × Json) → List Char
  | [] => []
  | (name, value) :: rest =>
    ',' :: lineBreak level ++ stringChars name ++ nameSeparator level ++ chars level value ++
      membersChars level rest

end

/-- The text of a value without spaces. -/
def compact (json : Json) : String :=
  String.ofList (json.chars none)

/-- The text of a value over several lines. -/
def indented (json : Json) : String :=
  String.ofList (json.chars (some 0))

end Json

end DiceFormula
