/-
# Reading JSON

The reader is strict: one value with nothing but space around it, no comments and
no trailing commas, strings without raw control characters and without halves of
surrogate pairs.  Three words are numbers: `NaN`, `Infinity` and `-Infinity`.
Integers of more than `Text.maxDigits` digits and values nested more than
`maxDepth` levels deep are turned down.

What a reader is given is the text still to be read, and what it returns is the
value and the rest.  At every second call at least, a character is taken, so the
mutual functions are bounded by twice the number of characters.
-/

import DiceFormula.Json.Value
import DiceFormula.Text.Numeral
import DiceFormula.Text.Word

namespace DiceFormula

namespace Json

/-- How deep arrays and objects may be nested. -/
def maxDepth : Nat := 200

/-- The characters that may stand between the parts of a text. -/
def isPadding (c : Char) : Bool :=
  c = ' ' || c = '\t' || c = '\n' || c = '\r'

/-- Leaves out padding. -/
def skipPadding (text : List Char) : List Char :=
  text.dropWhile isPadding

def hexDigit? (c : Char) : Option Nat :=
  if c.isDigit then some (c.toNat - '0'.toNat)
  else if 'a' ≤ c && c ≤ 'f' then some (c.toNat - 'a'.toNat + 10)
  else if 'A' ≤ c && c ≤ 'F' then some (c.toNat - 'A'.toNat + 10)
  else none

def hexValue? (digits : List Char) : Option Nat :=
  digits.foldlM (fun value c => (hexDigit? c).map (16 * value + ·)) 0

/-- A 16-bit unit at the front of a text, spelled with four digits. -/
def readUnit? : List Char → Option (Nat × List Char)
  | a :: b :: c :: d :: rest => (hexValue? [a, b, c, d]).map (·, rest)
  | _ => none

/-- The character with a code point, if there is one. -/
def charOfCode? (code : Nat) : Option Char :=
  if code.isValidChar then some (Char.ofNat code) else none

/-- A character spelled by its code after the letter `u`: one unit, or two that
form a surrogate pair. -/
def readCodeEscape? (text : List Char) : Option (Char × List Char) := do
  let (unit, rest) ← readUnit? text
  if 0xd800 ≤ unit && unit < 0xdc00 then
    match rest with
    | '\\' :: 'u' :: rest =>
      let (low, rest) ← readUnit? rest
      if 0xdc00 ≤ low && low < 0xe000 then
        let c ← charOfCode? (0x10000 + (unit - 0xd800) * 0x400 + (low - 0xdc00))
        pure (c, rest)
      else none
    | _ => none
  else
    let c ← charOfCode? unit
    pure (c, rest)

/-- The character that an escape stands for, read after the backslash. -/
def readEscape? : List Char → Option (Char × List Char)
  | '"' :: rest => some ('"', rest)
  | '\\' :: rest => some ('\\', rest)
  | '/' :: rest => some ('/', rest)
  | 'b' :: rest => some ('\x08', rest)
  | 'f' :: rest => some ('\x0c', rest)
  | 'n' :: rest => some ('\n', rest)
  | 'r' :: rest => some ('\r', rest)
  | 't' :: rest => some ('\t', rest)
  | 'u' :: rest => readCodeEscape? rest
  | _ => none

/-- The rest of a string up to its closing quote, read with the given bound on the
number of characters. -/
def readStringBody? : Nat → List Char → Option (List Char × List Char)
  | 0, _ => none
  | _ + 1, [] => none
  | _ + 1, '"' :: rest => some ([], rest)
  | bound + 1, '\\' :: rest => do
    let (c, rest) ← readEscape? rest
    let (body, rest) ← readStringBody? bound rest
    pure (c :: body, rest)
  | bound + 1, c :: rest =>
    if c.toNat < 0x20 then none
    else do
      let (body, rest) ← readStringBody? bound rest
      pure (c :: body, rest)

/-- The digits of a fraction after its point, if there is a point. -/
def readFraction? : List Char → Option (List Char × List Char)
  | '.' :: rest =>
    match rest.takeWhile Char.isDigit with
    | [] => none
    | digits => some (digits, rest.dropWhile Char.isDigit)
  | text => some ([], text)

def readExponent? (text : List Char) : Option (Option Int × List Char) :=
  match text with
  | c :: rest =>
    if c = 'e' || c = 'E' then
      let (negative, rest) := Text.splitSign rest
      match rest.takeWhile Char.isDigit with
      | [] => none
      | digits =>
        some (some (Text.signedValue negative (Text.digitsValue digits)),
          rest.dropWhile Char.isDigit)
    else some (none, text)
  | [] => some (none, [])

/-- A number without its sign.  An integer part is zero or begins with another
digit. -/
def readMagnitude? (negative : Bool) (text : List Char) : Option (Json × List Char) := do
  let whole := if text.head? = some '0' then ['0'] else text.takeWhile Char.isDigit
  if whole.isEmpty then none
  let (fraction, rest) ← readFraction? (text.drop whole.length)
  let isInteger := fraction.isEmpty
  let (exponent?, rest) ← readExponent? rest
  match isInteger, exponent? with
  | true, none =>
    if Text.maxDigits < whole.length then none
    else pure (integer (Text.signedValue negative (Text.digitsValue whole)), rest)
  | _, _ =>
    let exponent := exponent?.getD 0 - fraction.length
    pure (decimal (.ofDecimal negative (Text.digitsValue (whole ++ fraction)) exponent), rest)

def readNumber? : List Char → Option (Json × List Char)
  | '-' :: 'I' :: rest => do
    let rest ← Text.dropWord? "nfinity".toList rest
    pure (decimal (.infinite true), rest)
  | '-' :: rest => readMagnitude? true rest
  | text => readMagnitude? false text

/-- A value that is neither a container nor a string. -/
def readScalar? (text : List Char) : Option (Json × List Char) :=
  match text with
  | 'n' :: _ => (Text.dropWord? "null".toList text).map (null, ·)
  | 't' :: _ => (Text.dropWord? "true".toList text).map (bool true, ·)
  | 'f' :: _ => (Text.dropWord? "false".toList text).map (bool false, ·)
  | 'N' :: _ => (Text.dropWord? "NaN".toList text).map (decimal .nan, ·)
  | 'I' :: _ => (Text.dropWord? "Infinity".toList text).map (decimal (.infinite false), ·)
  | _ => readNumber? text

mutual

/-- A value at the front of a text, with a bound on the calls and on the nesting. -/
def readValue? (bound depth : Nat) (text : List Char) : Option (Json × List Char) :=
  match bound with
  | 0 => none
  | bound + 1 =>
    match text with
    | '"' :: rest =>
      (readStringBody? (bound + 1) rest).map fun (body, rest) => (string (String.ofList body), rest)
    | '[' :: rest =>
      match depth with
      | 0 => none
      | depth + 1 =>
        match skipPadding rest with
        | ']' :: rest => some (array [], rest)
        | text => (readItems? bound depth text).map fun (items, rest) => (array items, rest)
    | '{' :: rest =>
      match depth with
      | 0 => none
      | depth + 1 =>
        match skipPadding rest with
        | '}' :: rest => some (object [], rest)
        | text => (readMembers? bound depth text).map fun (members, rest) => (object members, rest)
    | _ => readScalar? text

/-- The items of an array that has at least one, up to the closing bracket. -/
def readItems? (bound depth : Nat) (text : List Char) : Option (List Json × List Char) :=
  match bound with
  | 0 => none
  | bound + 1 =>
    match readValue? bound depth text with
    | none => none
    | some (item, rest) =>
      match skipPadding rest with
      | ']' :: rest => some ([item], rest)
      | ',' :: rest =>
        (readItems? bound depth (skipPadding rest)).map fun (items, rest) => (item :: items, rest)
      | _ => none

/-- The members of an object that has at least one, up to the closing brace. -/
def readMembers? (bound depth : Nat) (text : List Char) :
    Option (List (String × Json) × List Char) :=
  match bound with
  | 0 => none
  | bound + 1 =>
    match text with
    | '"' :: rest =>
      match readStringBody? (bound + 1) rest with
      | none => none
      | some (name, rest) =>
        match skipPadding rest with
        | ':' :: rest =>
          match readValue? bound depth (skipPadding rest) with
          | none => none
          | some (value, rest) =>
            let member := (String.ofList name, value)
            match skipPadding rest with
            | '}' :: rest => some ([member], rest)
            | ',' :: rest =>
              (readMembers? bound depth (skipPadding rest)).map fun (members, rest) =>
                (member :: members, rest)
            | _ => none
        | _ => none
    | _ => none

end

def read? (text : List Char) : Option Json :=
  match readValue? (2 * text.length + 2) maxDepth (skipPadding text) with
  | some (json, rest) => if (skipPadding rest).isEmpty then some json else none
  | none => none

def parse? (text : String) : Option Json :=
  read? text.toList

end Json

end DiceFormula
