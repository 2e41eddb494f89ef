/-
# Formulas read from JSON

What a JSON value must look like to be a term or a formula, and everything that is
wrong with one that does not.  Faults are collected, not cut short: each tells its
cause and the place where it stands, and they are listed in the order of the
declared members, then of the members that have no place.

A term carries no tag.  Its kind follows from its members, which no two kinds
share, so a value is offered to all three kinds and at most one accepts it.
-/

import DiceFormula.Formula.Diagnostic
import DiceFormula.Json.Value
import DiceFormula.Text.Numeral

namespace DiceFormula

/-- The kinds of term, in the order in which a value is offered to them. -/
inductive TermKind where
  | roll
  | literal
  | identifier
deriving DecidableEq

/-- One step on the way from a value to a part of it. -/
inductive PathStep where
  | member (name : String)
  | item (place : Nat)
  /-- The reading of a value as a kind of term. -/
  | kind (kind : TermKind)
deriving DecidableEq

/-- Why a value does not fit. -/
inductive SchemaCause where
  /-- The text is not JSON. -/
  | notJson
  | notObject
  | notArray
  | notString
  | notInteger
  /-- A string that is not spelled like an integer. -/
  | notIntegerText
  /-- A string that is spelled like an integer with too many digits. -/
  | tooLongInteger
  | notFinite
  | notWhole
  | negative
  | notName
  | notOperator
  /-- A declared member is absent. -/
  | missing
  /-- A member is not declared. -/
  | undeclared
  /-- A formula has no term. -/
  | tooFewTerms
  /-- The number of operators does not go with the number of terms. -/
  | shape (terms operators : Nat)
  /-- A string that is no formula. -/
  | syntaxFault (diagnostic : Diagnostic)
deriving DecidableEq

/-- A cause and the place of the part that it is about. -/
structure SchemaFault where
  cause : SchemaCause
  path : List PathStep
deriving DecidableEq

namespace SchemaCause

/-- The words for the causes that have their own. -/
def message? : SchemaCause → Option String
  | shape terms operators =>
    some ("expression with " ++ terms.repr ++ " terms needs " ++ (terms - 1).repr ++
      " operators, got " ++ operators.repr)
  | syntaxFault diagnostic => some diagnostic.message
  | _ => none

end SchemaCause

/-- The outcome of reading a value: what it stands for, or all its faults. -/
abbrev Validated (α : Type) := Except (List SchemaFault) α

namespace Validated

variable {α : Type}

def faults : Validated α → List SchemaFault
  | .ok _ => []
  | .error faults => faults

def value? : Validated α → Option α
  | .ok value => some value
  | .error _ => none

/-- An outcome with a single cause, at the value itself. -/
def ofCause (outcome : Except SchemaCause α) : Validated α :=
  match outcome with
  | .ok value => .ok value
  | .error cause => .error [⟨cause, []⟩]

/-- The outcome seen from the value that the one read is part of. -/
def within (step : PathStep) (outcome : Validated α) : Validated α :=
  match outcome with
  | .ok value => .ok value
  | .error faults => .error (faults.map fun fault => ⟨fault.cause, step :: fault.path⟩)

end Validated

namespace Schema

/-- Drops a tail made of a point and zeros. -/
def dropZeroFraction (text : List Char) : List Char :=
  let zeros := text.reverse.takeWhile (· = '0')
  match text.reverse.dropWhile (· = '0') with
  | '.' :: whole => if zeros.isEmpty then text else whole.reverse
  | _ => text

def asciiDigit? (c : Char) : Option Nat :=
  if c.isDigit then some (c.toNat - '0'.toNat) else none

/-- An integer spelled in a string: space around it, a sign, digits that may be
grouped by single underscores, and a fraction of zeros. -/
def readIntText (text : List Char) : Except SchemaCause Int :=
  let (negative, body) := Text.splitSign (Text.trim Text.isSpace text)
  match Text.groupedDigits? asciiDigit? (dropZeroFraction body) with
  | none => .error .notIntegerText
  | some digits =>
    if Text.maxDigits < digits.length then .error .tooLongInteger
    else .ok (Text.signedValue negative (Text.decimalValue digits))

/-- An integer: a number without a fraction, a truth value, or a string that spells
an integer. -/
def readInt : Json → Except SchemaCause Int
  | .integer value => .ok value
  | .bool value => .ok (if value then 1 else 0)
  | .decimal value =>
    if value.isFinite then
      match value.toInt? with
      | some value => .ok value
      | none => .error .notWhole
    else .error .notFinite
  | .string text => readIntText text.toList
  | _ => .error .notInteger

/-- An integer that is not negative. -/
def readNat (json : Json) : Except SchemaCause Nat :=
  match readInt json with
  | .error cause => .error cause
  | .ok value => if value < 0 then .error .negative else .ok value.toNat

def readName : Json → Except SchemaCause Name
  | .string text =>
    match Name.ofChars? text.toList with
    | some name => .ok name
    | none => .error .notName
  | _ => .error .notString

def readMember {α : Type} (members : List (String × Json)) (name : String)
    (read : Json → Except SchemaCause α) : Validated α :=
  Validated.within (.member name)
    (match Json.lastMember? members name with
    | none => .error [⟨.missing, []⟩]
    | some json => Validated.ofCause (read json))

/-- The faults of members other than the declared ones. -/
def undeclaredFaults (members : List (String × Json)) (declared : List String) :
    List SchemaFault :=
  (members.filter fun member => !declared.contains member.1).map fun member =>
    ⟨.undeclared, [.member member.1]⟩

/-- The value, if nothing is wrong. -/
def accept {α : Type} (faults : List SchemaFault) (value? : Option α) : Validated α :=
  match faults, value? with
  | [], some value => .ok value
  | faults, _ => .error faults

end Schema

namespace TermKind

open Schema

/-- All kinds, in the order in which a value is offered to them. -/
def all : List TermKind := [roll, literal, identifier]

/-- Reads the members of an object as a kind of term. -/
def readMembers (members : List (String × Json)) : TermKind → Validated Term
  | roll =>
    let count := readMember members "count" readNat
    let faces := readMember members "faces" readInt
    accept (count.faults ++ faces.faults ++ undeclaredFaults members ["count", "faces"])
      (do pure (.roll (← count.value?) (← faces.value?)))
  | literal =>
    let value := readMember members "value" readNat
    accept (value.faults ++ undeclaredFaults members ["value"])
      (do pure (.literal (← value.value?)))
  | identifier =>
    let name := readMember members "name" readName
    accept (name.faults ++ undeclaredFaults members ["name"])
      (do pure (.identifier (← name.value?)))

def read (kind : TermKind) : Json → Validated Term
  | .object members => kind.readMembers members
  | _ => .error [⟨.notObject, []⟩]

end TermKind

namespace Schema

/-- Reads a value as a term of whichever kind accepts it. -/
def readTerm (json : Json) : Validated Term :=
  match TermKind.all.findSome? fun kind => (kind.read json).value? with
  | some term => .ok term
  | none =>
    .error (TermKind.all.flatMap fun kind => ((kind.read json).within (.kind kind)).faults)

def readOperator : Json → Validated Operator
  | .string text =>
    match text.toList with
    | [symbol] =>
      match Operator.ofSymbol? symbol with
      | some op => .ok op
      | none => .error [⟨.notOperator, []⟩]
    | _ => .error [⟨.notOperator, []⟩]
  | _ => .error [⟨.notOperator, []⟩]

/-- Reads the items of an array from a place on. -/
def readItems {α : Type} (read : Json → Validated α) (place : Nat) :
    List Json → List (Validated α)
  | [] => []
  | json :: rest => (read json).within (.item place) :: readItems read (place + 1) rest

/-- The values of items that were all accepted, or the faults of all items. -/
def collect {α : Type} (items : List (Validated α)) : Validated (List α) :=
  accept (items.flatMap Validated.faults) (some (items.filterMap Validated.value?))

/-- Reads the terms of a formula: an array in which at least one item is a term. -/
def readTerms : Json → Validated (List Term)
  | .array items =>
    let read := readItems readTerm 0 items
    let few := if (read.filterMap Validated.value?).isEmpty then [⟨.tooFewTerms, []⟩] else []
    accept ((collect read).faults ++ few) (collect read).value?
  | _ => .error [⟨.notArray, []⟩]

def readOperators : Json → Validated (List Operator)
  | .array items => collect (readItems readOperator 0 items)
  | _ => .error [⟨.notArray, []⟩]

def termsOf (members : List (String × Json)) : Validated (List Term) :=
  Validated.within (.member "terms")
    (match Json.lastMember? members "terms" with
    | none => .error [⟨.missing, []⟩]
    | some json => readTerms json)

/-- The operators of an object; there need not be any. -/
def operatorsOf (members : List (String × Json)) : Validated (List Operator) :=
  Validated.within (.member "operators")
    (match Json.lastMember? members "operators" with
    | none => .ok []
    | some json => readOperators json)

/-- Reads a value as a formula.  Members other than the terms and the operators are
passed over, and only when both are right is their number looked at. -/
def readFormula : Json → Validated Formula
  | .object members =>
    match termsOf members, operatorsOf members with
    | .ok terms, .ok operators =>
      match Formula.ofTerms? terms operators with
      | some formula => .ok formula
      | none => .error [⟨.shape terms.length operators.length, []⟩]
    | terms, operators => .error (terms.faults ++ operators.faults)
  | _ => .error [⟨.notObject, []⟩]

/-- Reads a value as a formula that may also be given by its text. -/
def readFormulaOrText : Json → Validated Formula
  | .string source =>
    match Formula.parse source with
    | .ok formula => .ok formula
    | .error fault => .error [⟨.syntaxFault (.ofFault source fault), []⟩]
  | json => readFormula json

def readOptional {α : Type} (read : Json → Validated α) : Json → Validated (Option α)
  | .null => .ok none
  | json =>
    match read json with
    | .ok value => .ok (some value)
    | .error faults => .error faults

/-- What a text that was read as JSON stands for. -/
def ofText {α : Type} (read : Json → Validated α) (json? : Option Json) : Validated α :=
  match json? with
  | some json => read json
  | none => .error [⟨.notJson, []⟩]

end Schema

end DiceFormula
