/-
# Quoted text

Messages show a piece of text between quotes.  Single quotes are used, or double
quotes when the text holds a single quote and no double one.  The backslash and
the quote in use are escaped with a backslash, line feed, carriage return and
tab have short escapes, and every other character that cannot be shown as itself
is spelled by its code point in lower-case hexadecimal.
-/

import DiceFormula.Text.Printable

namespace DiceFormula.Text

/-- The quote that surrounds a text. -/
def quoteFor (chars : List Char) : Char :=
  if chars.contains '\'' && !chars.contains '"' then '"' else '\''

/-- The lower-case hexadecimal digits of a number, padded with zeros. -/
def hexDigits (width n : Nat) : List Char :=
  (Nat.toDigits 16 n).leftpad width '0'

/-- A code point by its number, in the shortest of the three lengths that holds it. -/
def escapedCode (c : Char) : List Char :=
  if c.toNat < 0x100 then '\\' :: 'x' :: hexDigits 2 c.toNat
  else if c.toNat < 0x10000 then '\\' :: 'u' :: hexDigits 4 c.toNat
  else '\\' :: 'U' :: hexDigits 8 c.toNat

/-- One character inside quotes. -/
def quotedChar (quote c : Char) : List Char :=
  if c = quote || c = '\\' then ['\\', c]
  else if c = '\n' then ['\\', 'n']
  else if c = '\r' then ['\\', 'r']
  else if c = '\t' then ['\\', 't']
  else if isPrintable c then [c]
  else escapedCode c

def quotedChars (chars : List Char) : List Char :=
  let quote := quoteFor chars
  quote :: chars.flatMap (quotedChar quote) ++ [quote]

def quoted (text : String) : String :=
  String.ofList (quotedChars text.toList)

example : quotedChars ['a', '\'', '\n'] = ['"', 'a', '\'', '\\', 'n', '"'] := by decide

end DiceFormula.Text
