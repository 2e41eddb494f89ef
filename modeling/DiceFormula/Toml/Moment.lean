/-
# Dates and times in TOML

A moment is a date, a time of day, or both, and with both there may be an offset
from universal time.  Reading takes the longest spelling at the front of a text; a
day that its month does not have is a fault and not the end of the spelling.
-/

import DiceFormula.Text.Digits

namespace DiceFormula

namespace Toml

inductive Fault where
  /-- The text breaks a rule of the format. -/
  | malformed
  /-- A decimal integer has more digits than can be converted. -/
  | tooManyDigits (count : Nat)
deriving DecidableEq

structure Date where
  year : Nat
  month : Nat
  day : Nat
deriving DecidableEq

/-- A time of day to the microsecond. -/
structure Time where
  hour : Nat
  minute : Nat
  second : Nat
  microsecond : Nat
deriving DecidableEq

/-- A date, a time, or both, then with the offset in seconds if one is given. -/
inductive Moment where
  | date (day : Date)
  | time (clock : Time)
  | dateTime (day : Date) (clock : Time) (offset : Option Int)
deriving DecidableEq

namespace Date

def isLeapYear (year : Nat) : Bool :=
  year % 4 = 0 && (year % 100 ≠ 0 || year % 400 = 0)

def daysInMonth (year month : Nat) : Nat :=
  if month = 2 then if isLeapYear year then 29 else 28
  else if month = 4 || month = 6 || month = 9 || month = 11 then 30
  else 31

/-- Whether a date is a day of the calendar, which begins with the year one. -/
def isValid (date : Date) : Bool :=
  1 ≤ date.year && date.day ≤ daysInMonth date.year date.month

end Date

namespace Moment

/-- A number of exactly the given count of digits, between two bounds. -/
def readNumber? (count low high : Nat) (text : List Char) : Option (Nat × List Char) :=
  let digits := text.take count
  let value := Text.digitsValue digits
  if digits.length = count && digits.all Char.isDigit && low ≤ value && value ≤ high then
    some (value, text.drop count)
  else none

def skip? (c : Char) : List Char → Option (List Char)
  | first :: rest => if first = c then some rest else none
  | [] => none

/-- A fraction of a second in microseconds; further digits are left out. -/
def readFraction (text : List Char) : Nat × List Char :=
  match text with
  | '.' :: rest =>
    match rest.takeWhile Char.isDigit with
    | [] => (0, text)
    | digits =>
      let kept := digits.take 6
      (Text.digitsValue kept * Nat.pow 10 (6 - kept.length), rest.dropWhile Char.isDigit)
  | _ => (0, text)

def readTime? (text : List Char) : Option (Time × List Char) := do
  let (hour, text) ← readNumber? 2 0 23 text
  let text ← skip? ':' text
  let (minute, text) ← readNumber? 2 0 59 text
  let text ← skip? ':' text
  let (second, text) ← readNumber? 2 0 59 text
  let (microsecond, text) := readFraction text
  pure (⟨hour, minute, second, microsecond⟩, text)

/-- A date as it is spelled, whether or not its month has the day. -/
def readDate? (text : List Char) : Option (Date × List Char) := do
  let (year, text) ← readNumber? 4 0 9999 text
  let text ← skip? '-' text
  let (month, text) ← readNumber? 2 1 12 text
  let text ← skip? '-' text
  let (day, text) ← readNumber? 2 1 31 text
  pure (⟨year, month, day⟩, text)

/-- Hours and minutes in seconds. -/
def readOffsetSize? (text : List Char) : Option (Int × List Char) := do
  let (hours, text) ← readNumber? 2 0 23 text
  let text ← skip? ':' text
  let (minutes, text) ← readNumber? 2 0 59 text
  pure (((hours * 60 + minutes) * 60 : Nat), text)

/-- The offset after a time, if there is one. -/
def readOffset (text : List Char) : Option Int × List Char :=
  match text with
  | 'Z' :: rest => (some 0, rest)
  | 'z' :: rest => (some 0, rest)
  | '+' :: rest =>
    match readOffsetSize? rest with
    | some (size, rest) => (some size, rest)
    | none => (none, text)
  | '-' :: rest =>
    match readOffsetSize? rest with
    | some (size, rest) => (some (-size), rest)
    | none => (none, text)
  | _ => (none, text)

/-- The time that may follow a date: one separator and a whole time. -/
def readTimeAfterDate? : List Char → Option (Time × List Char)
  | 'T' :: rest => readTime? rest
  | 't' :: rest => readTime? rest
  | ' ' :: rest => readTime? rest
  | _ => none

/-- A moment at the front of a text.  There may be none, and the one there is may
name a day that does not exist. -/
def read? (text : List Char) : Option (Except Fault (Moment × List Char)) :=
  match readDate? text with
  | some (day, rest) =>
    if day.isValid then
      match readTimeAfterDate? rest with
      | some (clock, rest) =>
        let (offset, rest) := readOffset rest
        some (.ok (.dateTime day clock offset, rest))
      | none => some (.ok (.date day, rest))
    else some (.error .malformed)
  | none => (readTime? text).map fun (clock, rest) => .ok (.time clock, rest)

/-- Numbers with commas between them. -/
def numberList (numbers : List Nat) : String :=
  String.intercalate ", " (numbers.map Nat.repr)

/-- The parts of a time that are shown: seconds only if they or the microseconds
are not zero, microseconds only if they are not zero. -/
def timeParts (clock : Time) : List Nat :=
  [clock.hour, clock.minute] ++
    if clock.microsecond ≠ 0 then [clock.second, clock.microsecond]
    else if clock.second ≠ 0 then [clock.second]
    else []

def dateParts (day : Date) : List Nat :=
  [day.year, day.month, day.day]

/-- An offset as shown to a reader: whole days below zero and seconds above them. -/
def offsetText (offset : Int) : String :=
  if offset = 0 then "datetime.timezone.utc"
  else
    let day : Int := 86400
    let days := if offset < 0 then "days=-1, " else ""
    let seconds := if offset < 0 then offset + day else offset
    "datetime.timezone(datetime.timedelta(" ++ days ++ "seconds=" ++ Text.intText seconds ++ "))"

def text : Moment → String
  | date day => "datetime.date(" ++ numberList (dateParts day) ++ ")"
  | time clock => "datetime.time(" ++ numberList (timeParts clock) ++ ")"
  | dateTime day clock offset =>
    let zone := match offset with
      | some offset => ", tzinfo=" ++ offsetText offset
      | none => ""
    "datetime.datetime(" ++ numberList (dateParts day ++ timeParts clock) ++ zone ++ ")"

end Moment

end Toml

end DiceFormula
