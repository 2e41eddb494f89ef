/-
# Terms and operators

A term is the operand of a formula: a roll of dice, a literal number, or an
identifier whose value is looked up when the formula is evaluated.  Counts and
literals are natural numbers by type.  The faces of a die are an arbitrary
integer: a roll of dice without faces is a well-formed term that only evaluation
turns down.
-/

import DiceFormula.Text.Digits

namespace DiceFormula

/-- The characters of an identifier: ASCII letters, ASCII digits and the dot. -/
def isNameChar (c : Char) : Bool :=
  c.isAlphanum || c = '.'

/-- An identifier exactly as written: a nonempty run of name characters. -/
structure Name where
  chars : List Char
  chars_ne_nil : chars ≠ []
  chars_allowed : ∀ c ∈ chars, isNameChar c = true
deriving DecidableEq

namespace Name

/-- Two names are equal when they are written alike. -/
theorem ext_chars {a b : Name} (h : a.chars = b.chars) : a = b := by
  cases a; cases b; simp_all

/-- The name written with the given characters, if they form one. -/
def ofChars? (chars : List Char) : Option Name :=
  if nonempty : chars = [] then none
  else if allowed : chars.all isNameChar = true then
    some ⟨chars, nonempty, List.all_eq_true.1 allowed⟩
  else none

def text (name : Name) : String :=
  String.ofList name.chars

end Name

/-- The four operators.  They all bind alike and are applied left to right. -/
inductive Operator where
  | add
  | sub
  | mul
  | div
deriving DecidableEq

namespace Operator

def all : List Operator := [add, sub, mul, div]

/-- The character an operator is written with. -/
def symbol : Operator → Char
  | add => '+'
  | sub => '-'
  | mul => '*'
  | div => '/'

/-- The operator written with a character, if there is one. -/
def ofSymbol? (c : Char) : Option Operator :=
  all.find? fun op => op.symbol = c

@[simp]
theorem ofSymbol?_symbol (op : Operator) : ofSymbol? op.symbol = some op := by
  cases op <;> rfl

theorem symbol_eq_of_ofSymbol? {c : Char} {op : Operator} (h : ofSymbol? c = some op) :
    op.symbol = c := by
  simpa using List.find?_some h

end Operator

inductive Term where
  /-- The sum of `count` draws from `1` to `faces`. -/
  | roll (count : Nat) (faces : Int)
  /-- A number written out. -/
  | literal (value : Nat)
  /-- A name whose value is looked up. -/
  | identifier (name : Name)
deriving DecidableEq

namespace Term

def chars : Term → List Char
  | roll count faces => Text.natDigits count ++ 'd' :: Text.intDigits faces
  | literal value => Text.natDigits value
  | identifier name => name.chars

def text (term : Term) : String :=
  String.ofList term.chars

def isRoll : Term → Bool
  | roll .. => true
  | _ => false

/-- The name of an identifier, `none` for the other terms. -/
def name? : Term → Option Name
  | identifier name => some name
  | _ => none

/-- The integers in a term. -/
def numbers : Term → List Int
  | roll count faces => [count, faces]
  | literal value => [value]
  | identifier _ => []

end Term

end DiceFormula
