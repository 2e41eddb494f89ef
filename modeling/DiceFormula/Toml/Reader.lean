/-
# Reading TOML

A document is a sequence of statements, one on a line.  Reading yields the
statements up to the first place where the text breaks a rule of the format, and
the fault found there; a statement that cannot be carried out comes before any
fault further down.

Each reader is given the text still to be read and returns what it read with the
rest.  At every second call at least, a character is taken, so readers that call
themselves are bounded by a multiple of the number of characters of the text.
Lines end with a line feed.
-/

import DiceFormula.Json.Reader
import DiceFormula.Toml.Document

namespace DiceFormula

namespace Toml

abbrev Reading (α : Type) := Except Fault (α × List Char)

/-- The space that may stand between the parts of a line. -/
def isLineSpace (c : Char) : Bool :=
  c = ' ' || c = '\t'

/-- Space, line ends included. -/
def isAnySpace (c : Char) : Bool :=
  isLineSpace c || c = '\n'

/-- The controls that no line may hold; the tab is not among them. -/
def isForbidden (c : Char) : Bool :=
  (c.toNat < 0x20 && c ≠ '\t') || c = '\x7f'

/-- The characters of a key that is not quoted. -/
def isBareKeyChar (c : Char) : Bool :=
  c.isAlphanum || c = '-' || c = '_'

/-- Leaves out space within a line. -/
def skipSpace (text : List Char) : List Char :=
  text.dropWhile isLineSpace

/-- Leaves out a comment, which ends before the end of its line. -/
def skipComment (text : List Char) : Except Fault (List Char) :=
  match text with
  | '#' :: rest =>
    if (rest.takeWhile (· ≠ '\n')).any isForbidden then .error .malformed
    else .ok (rest.dropWhile (· ≠ '\n'))
  | _ => .ok text

/-- Leaves out space, line ends and comments. -/
def skipLines : Nat → List Char → Except Fault (List Char)
  | 0, text => .ok text
  | bound + 1, text =>
    match text.dropWhile isAnySpace with
    | '#' :: rest =>
      match skipComment ('#' :: rest) with
      | .error fault => .error fault
      | .ok rest => skipLines bound rest
    | rest => .ok rest

/-- A character spelled by a code of the given number of hexadecimal digits. -/
def readCode (count : Nat) (text : List Char) : Reading Char :=
  let digits := text.take count
  if digits.length = count then
    match Json.hexValue? digits with
    | some code =>
      match Json.charOfCode? code with
      | some c => .ok (c, text.drop count)
      | none => .error .malformed
    | none => .error .malformed
  else .error .malformed

/-- The character that an escape stands for, read after the backslash. -/
def readEscape : List Char → Reading Char
  | 'b' :: rest => .ok ('\x08', rest)
  | 't' :: rest => .ok ('\t', rest)
  | 'n' :: rest => .ok ('\n', rest)
  | 'f' :: rest => .ok ('\x0c', rest)
  | 'r' :: rest => .ok ('\r', rest)
  | '"' :: rest => .ok ('"', rest)
  | '\\' :: rest => .ok ('\\', rest)
  | 'u' :: rest => readCode 4 rest
  | 'U' :: rest => readCode 8 rest
  | _ => .error .malformed

/-- What follows a line that a backslash joins to the next: all space up to the next
other character.  Nothing but space may stand behind the backslash. -/
def readLineJoin? (text : List Char) : Option (Except Fault (List Char)) :=
  match text with
  | c :: _ =>
    if isAnySpace c then
      match skipSpace text with
      | [] => some (.ok [])
      | '\n' :: rest => some (.ok (rest.dropWhile isAnySpace))
      | _ => some (.error .malformed)
    else none
  | [] => none

/-- The rest of a string on one line up to its closing quote. -/
def readLineBody : Nat → List Char → Reading (List Char)
  | 0, _ => .error .malformed
  | _ + 1, [] => .error .malformed
  | _ + 1, '"' :: rest => .ok ([], rest)
  | bound + 1, '\\' :: rest =>
    match readEscape rest with
    | .error fault => .error fault
    | .ok (c, rest) => (readLineBody bound rest).map fun (body, rest) => (c :: body, rest)
  | bound + 1, c :: rest =>
    if isForbidden c then .error .malformed
    else (readLineBody bound rest).map fun (body, rest) => (c :: body, rest)

/-- The rest of a string over several lines up to its three closing quotes. -/
def readBlockBody : Nat → List Char → Reading (List Char)
  | 0, _ => .error .malformed
  | _ + 1, [] => .error .malformed
  | _ + 1, '"' :: '"' :: '"' :: rest => .ok ([], rest)
  | bound + 1, '\\' :: rest =>
    match readLineJoin? rest with
    | some (.error fault) => .error fault
    | some (.ok rest) => readBlockBody bound rest
    | none =>
      match readEscape rest with
      | .error fault => .error fault
      | .ok (c, rest) => (readBlockBody bound rest).map fun (body, rest) => (c :: body, rest)
  | bound + 1, c :: rest =>
    if isForbidden c && c ≠ '\n' then .error .malformed
    else (readBlockBody bound rest).map fun (body, rest) => (c :: body, rest)

/-- The rest of a string without escapes on one line up to its closing apostrophe. -/
def readRawLineBody (text : List Char) : Reading (List Char) :=
  let body := text.takeWhile (· ≠ '\'')
  match text.dropWhile (· ≠ '\'') with
  | _ :: rest => if body.any isForbidden then .error .malformed else .ok (body, rest)
  | [] => .error .malformed

/-- The rest of a string without escapes over several lines up to its three closing
apostrophes. -/
def readRawBlockBody : List Char → Reading (List Char)
  | '\'' :: '\'' :: '\'' :: rest => .ok ([], rest)
  | c :: rest =>
    if isForbidden c && c ≠ '\n' then .error .malformed
    else (readRawBlockBody rest).map fun (body, rest) => (c :: body, rest)
  | [] => .error .malformed

/-- Up to two more quotes directly behind three closing ones belong to the string. -/
def readExtraQuotes (quote : Char) (body : List Char) (text : List Char) : String × List Char :=
  let extra := (text.take 2).takeWhile (· = quote)
  (String.ofList (body ++ extra), text.drop extra.length)

/-- A line end directly behind the opening of a block does not belong to it. -/
def dropFirstLineEnd : List Char → List Char
  | '\n' :: rest => rest
  | text => text

/-- A string in any of the four spellings, `none` if the text does not begin with
one. -/
def readString? (bound : Nat) (text : List Char) : Option (Reading String) :=
  match text with
  | '"' :: '"' :: '"' :: rest =>
    some ((readBlockBody bound (dropFirstLineEnd rest)).map fun (body, rest) =>
      readExtraQuotes '"' body rest)
  | '"' :: rest =>
    some ((readLineBody bound rest).map fun (body, rest) => (String.ofList body, rest))
  | '\'' :: '\'' :: '\'' :: rest =>
    some ((readRawBlockBody (dropFirstLineEnd rest)).map fun (body, rest) =>
      readExtraQuotes '\'' body rest)
  | '\'' :: rest =>
    some ((readRawLineBody rest).map fun (body, rest) => (String.ofList body, rest))
  | _ => none

/-- One name of a key: bare, or a string on one line. -/
def readKeyName (bound : Nat) (text : List Char) : Reading String :=
  match text with
  | '"' :: rest => (readLineBody bound rest).map fun (body, rest) => (String.ofList body, rest)
  | '\'' :: rest => (readRawLineBody rest).map fun (body, rest) => (String.ofList body, rest)
  | _ =>
    match text.takeWhile isBareKeyChar with
    | [] => .error .malformed
    | name => .ok (String.ofList name, text.dropWhile isBareKeyChar)

/-- A key and the space behind it: names with dots between them. -/
def readKey : Nat → List Char → Reading Key
  | 0, _ => .error .malformed
  | bound + 1, text =>
    match readKeyName (bound + 1) text with
    | .error fault => .error fault
    | .ok (name, rest) =>
      match skipSpace rest with
      | '.' :: rest =>
        (readKey bound (skipSpace rest)).map fun (key, rest) =>
          (⟨name :: key.parents, key.name⟩, rest)
      | rest => .ok (⟨[], name⟩, rest)

/-- The longest run of digits of a class in which one underscore may stand between
two digits. -/
def digitRun (isDigit : Char → Bool) (text : List Char) : List Char :=
  match text with
  | c :: rest => if isDigit c then c :: more rest else []
  | [] => []
where
  /-- What continues a run. -/
  more : List Char → List Char
    | '_' :: c :: rest => if isDigit c then '_' :: c :: more rest else []
    | c :: rest => if isDigit c then c :: more rest else []
    | [] => []

/-- The digits of a run. -/
def withoutUnderscores (run : List Char) : List Char :=
  run.filter (· ≠ '_')

/-- The value of digits in a base up to sixteen. -/
def valueInBase (base : Nat) (digits : List Char) : Nat :=
  digits.foldl (fun value c => base * value + (Json.hexDigit? c).getD 0) 0

/-- A whole number with the mark of its base, read after the mark. -/
def readBased? (base : Nat) (text : List Char) : Option (Value × List Char) :=
  let run := digitRun (fun c => (Json.hexDigit? c).any (· < base)) text
  if run.isEmpty then none
  else some (.integer (valueInBase base (withoutUnderscores run)), text.drop run.length)

/-- The fraction behind a whole part: its digits, and whether there is one. -/
def readFraction (text : List Char) : Option (List Char) × List Char :=
  match text with
  | '.' :: rest =>
    match digitRun Char.isDigit rest with
    | [] => (none, text)
    | run => (some (withoutUnderscores run), rest.drop run.length)
  | _ => (none, text)

def readExponent (text : List Char) : Option Int × List Char :=
  match text with
  | c :: rest =>
    if c = 'e' || c = 'E' then
      let (negative, digits) := Text.splitSign rest
      match digitRun Char.isDigit digits with
      | [] => (none, text)
      | run =>
        (some (Text.signedValue negative (Text.digitsValue (withoutUnderscores run))),
          digits.drop run.length)
    else (none, text)
  | [] => (none, [])

/-- A decimal number: a whole part without leading zeros, then perhaps a fraction
and an exponent. -/
def readDecimal? (text : List Char) : Option (Reading Value) :=
  let (negative, body) := Text.splitSign text
  let run := if body.head? = some '0' then ['0'] else digitRun Char.isDigit body
  if run.isEmpty then none
  else
    let whole := withoutUnderscores run
    let (fraction, rest) := readFraction (body.drop run.length)
    let (exponent, rest) := readExponent rest
    match fraction, exponent with
    | none, none =>
      if Text.maxDigits < whole.length then some (.error (.tooManyDigits whole.length))
      else some (.ok (.integer (Text.signedValue negative (Text.digitsValue whole)), rest))
    | _, _ =>
      let digits := fraction.getD []
      some (.ok (.decimal (.ofDecimal negative (Text.digitsValue (whole ++ digits))
        (exponent.getD 0 - digits.length)), rest))

/-- A number in any base, `none` if the text does not begin with one. -/
def readNumber? (text : List Char) : Option (Reading Value) :=
  let based :=
    match text with
    | '0' :: 'x' :: rest => readBased? 16 rest
    | '0' :: 'b' :: rest => readBased? 2 rest
    | '0' :: 'o' :: rest => readBased? 8 rest
    | _ => none
  match based with
  | some number => some (.ok number)
  | none => readDecimal? text

/-- A number that is a word: an infinity or no number, with or without a sign. -/
def readNumberWord (text : List Char) : Reading Value :=
  let (negative, body) := Text.splitSign text
  match Text.dropWord? "inf".toList body with
  | some rest => .ok (.decimal (.infinite negative), rest)
  | none =>
    match Text.dropWord? "nan".toList body with
    | some rest => .ok (.decimal .nan, rest)
    | none => .error .malformed

/-- A truth value, `none` if the text does not begin with one. -/
def readBool? (text : List Char) : Option (Value × List Char) :=
  match Text.dropWord? "true".toList text with
  | some rest => some (.bool true, rest)
  | none => (Text.dropWord? "false".toList text).map (.bool false, ·)

/-- A value that has no parts.  A moment is looked for before a number, which it
begins like. -/
def readSimple (bound : Nat) (text : List Char) : Reading Value :=
  match readString? bound text with
  | some reading => reading.map fun (string, rest) => (.string string, rest)
  | none =>
    match readBool? text with
    | some reading => .ok reading
    | none =>
      match Moment.read? text with
      | some reading => reading.map fun (moment, rest) => (.moment moment, rest)
      | none => (readNumber? text).getD (readNumberWord text)

def readEquals : List Char → Except Fault (List Char)
  | '=' :: rest => .ok (skipSpace rest)
  | _ => .error .malformed

mutual

def readValue (bound : Nat) (text : List Char) : Reading Value :=
  match bound with
  | 0 => .error .malformed
  | bound + 1 =>
    match text with
    | '[' :: rest =>
      match skipLines (bound + 1) rest with
      | .error fault => .error fault
      | .ok (']' :: rest) => .ok (.array [], rest)
      | .ok text => (readItems bound text).map fun (items, rest) => (.array items, rest)
    | '{' :: rest =>
      match skipSpace rest with
      | '}' :: rest => .ok (.table [], rest)
      | text => (readInline bound .empty text).map fun (table, rest) => (.table table.entries, rest)
    | _ => readSimple (bound + 1) text

/-- The items of an array up to its closing bracket.  A comma may follow the last. -/
def readItems (bound : Nat) (text : List Char) : Reading (List Value) :=
  match bound with
  | 0 => .error .malformed
  | bound + 1 =>
    match readValue bound text with
    | .error fault => .error fault
    | .ok (item, rest) =>
      match skipLines (bound + 1) rest with
      | .error fault => .error fault
      | .ok (']' :: rest) => .ok ([item], rest)
      | .ok (',' :: rest) =>
        match skipLines (bound + 1) rest with
        | .error fault => .error fault
        | .ok (']' :: rest) => .ok ([item], rest)
        | .ok text => (readItems bound text).map fun (items, rest) => (item :: items, rest)
      | .ok _ => .error .malformed

/-- The entries of an inline table up to its closing brace. -/
def readInline (bound : Nat) (table : InlineTable) (text : List Char) : Reading InlineTable :=
  match bound with
  | 0 => .error .malformed
  | bound + 1 =>
    match readKey (bound + 1) text with
    | .error fault => .error fault
    | .ok (key, rest) =>
      match readEquals rest with
      | .error fault => .error fault
      | .ok text =>
        match readValue bound text with
        | .error fault => .error fault
        | .ok (value, rest) =>
          match table.assign key value with
          | none => .error .malformed
          | some table =>
            match skipSpace rest with
            | '}' :: rest => .ok (table, rest)
            | ',' :: rest => readInline bound table (skipSpace rest)
            | _ => .error .malformed

end

/-- A table header after its opening bracket or brackets. -/
def readHeader (bound : Nat) (closing : List Char) (text : List Char) : Reading Key :=
  match readKey bound (skipSpace text) with
  | .error fault => .error fault
  | .ok (key, rest) =>
    match Text.dropWord? closing rest with
    | some rest => .ok (key, rest)
    | none => .error .malformed

def readStatement (bound : Nat) (text : List Char) : Reading Statement :=
  match text with
  | '[' :: '[' :: rest =>
    (readHeader bound [']', ']'] rest).map fun (key, rest) => (.openItem key, rest)
  | '[' :: rest => (readHeader bound [']'] rest).map fun (key, rest) => (.openTable key, rest)
  | _ =>
    match readKey bound text with
    | .error fault => .error fault
    | .ok (key, rest) =>
      match readEquals rest with
      | .error fault => .error fault
      | .ok text => (readValue bound text).map fun (value, rest) => (.assign key value, rest)

/-- What may follow a statement on its line: space and a comment. -/
def readLineEnd (text : List Char) : Except Fault (List Char) :=
  match skipComment (skipSpace text) with
  | .error fault => .error fault
  | .ok [] => .ok []
  | .ok ('\n' :: rest) => .ok rest
  | .ok _ => .error .malformed

/-- The statements of a text up to the first fault, and that fault. -/
def readStatements : Nat → List Char → List Statement × Option Fault
  | 0, _ => ([], some .malformed)
  | bound + 1, text =>
    match skipSpace text with
    | [] => ([], none)
    | '\n' :: rest => readStatements bound rest
    | '#' :: rest =>
      match readLineEnd ('#' :: rest) with
      | .error fault => ([], some fault)
      | .ok rest => readStatements bound rest
    | line =>
      match readStatement (bound + 1) line with
      | .error fault => ([], some fault)
      | .ok (statement, rest) =>
        match readLineEnd rest with
        | .error fault => ([statement], some fault)
        | .ok rest =>
          let (statements, fault?) := readStatements bound rest
          (statement :: statements, fault?)

/-- The entries of a document, or the first fault in it. -/
def parse (text : List Char) : Except Fault Entries :=
  let (statements, fault?) := readStatements (2 * text.length + 2) text
  match Document.empty.run statements, fault? with
  | none, _ => .error .malformed
  | some _, some fault => .error fault
  | some document, none => .ok document.entries

end Toml

end DiceFormula
