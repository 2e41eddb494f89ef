/-
# Reading formulas

    formula     ::=  term (" " operator " " term)*
    term        ::=  roll / integer / identifier        (the first that matches)
    roll        ::=  DIGITS "d" DIGITS
    integer     ::=  DIGITS
    identifier  ::=  [A-Za-z0-9.]+
    operator    ::=  "+" / "-" / "*" / "/"

Separators are exactly one space.  The alternatives of a term are tried in the
order given and the first that matches is final: `3d6x` is a roll followed by
something that is neither a space nor the end.  A text that does not match is
answered with the position of the first character that cannot be accepted and
what was expected there, never with a part of a formula.

The reader works on the characters still to be read.  `TermSpan` is what one
look at them finds; a span knows how many characters it takes, which is what
moves the position on and what makes the reader stop.
-/

import DiceFormula.Formula

namespace DiceFormula

/-- What the grammar wanted at the place where a text stops matching. -/
inductive Expected where
  | term
  | operator
  | space
  | spaceOrEnd
  | boundedInteger
deriving DecidableEq

namespace Expected

def text : Expected → String
  | term => "term"
  | operator => "operator"
  | space => "' '"
  | spaceOrEnd => "' ' or end of input"
  | boundedInteger => "integer within 64-bit range"

end Expected

/-- Where a text stops matching the grammar, counted in characters from its
start, and what was expected there. -/
structure SyntaxFault where
  position : Nat
  expected : Expected
deriving DecidableEq

namespace Formula

/-- The runs of characters that the three alternatives of a term consist of. -/
inductive TermSpan where
  | roll (count faces : List Char)
  | integer (digits : List Char)
  | identifier (name : Name)

namespace TermSpan

def length : TermSpan → Nat
  | roll count faces => count.length + 1 + faces.length
  | integer digits => digits.length
  | identifier name => name.chars.length

/-- The span of a roll at the front of a text, if there is one. -/
def roll? (text : List Char) : Option TermSpan :=
  let count := text.takeWhile Char.isDigit
  match count, text.dropWhile Char.isDigit with
  | _ :: _, 'd' :: rest =>
    match rest.takeWhile Char.isDigit with
    | [] => none
    | faces => some (.roll count faces)
  | _, _ => none

/-- The span of an integer at the front of a text, if there is one. -/
def integer? (text : List Char) : Option TermSpan :=
  match text.takeWhile Char.isDigit with
  | [] => none
  | digits => some (.integer digits)

/-- The span of an identifier at the front of a text, if there is one. -/
def identifier? (text : List Char) : Option TermSpan :=
  (Name.ofChars? (text.takeWhile isNameChar)).map .identifier

/-- The span of the term at the front of a text: the first alternative that matches. -/
def ofText? (text : List Char) : Option TermSpan :=
  roll? text <|> integer? text <|> identifier? text

/-- The term a span stands for when it begins at a position.  The numbers of a
term are checked from left to right. -/
def toTerm (span : TermSpan) (position : Nat) : Except SyntaxFault Term :=
  match span with
  | roll count faces =>
    match Text.boundedValue? count with
    | none => .error ⟨position, .boundedInteger⟩
    | some countValue =>
      match Text.boundedValue? faces with
      | none => .error ⟨position + count.length + 1, .boundedInteger⟩
      | some facesValue => .ok (.roll countValue facesValue)
  | integer digits =>
    match Text.boundedValue? digits with
    | none => .error ⟨position, .boundedInteger⟩
    | some value => .ok (.literal value)
  | identifier name => .ok (.identifier name)

end TermSpan

/-- Reads the term that begins at a position: the term and the number of
characters it takes. -/
def readTerm (position : Nat) (text : List Char) : Except SyntaxFault (Term × Nat) :=
  match TermSpan.ofText? text with
  | none => .error ⟨position, .term⟩
  | some span =>
    match span.toTerm position with
    | .error fault => .error fault
    | .ok term => .ok (term, span.length)

/-- Reads the steps that follow a term, up to the end of the text. -/
def readSteps (position : Nat) (text : List Char) :
    Except SyntaxFault (List (Operator × Term)) :=
  match text with
  | [] => .ok []
  | ' ' :: afterSpace =>
    match afterSpace with
    | [] => .error ⟨position + 1, .operator⟩
    | symbol :: afterOperator =>
      match Operator.ofSymbol? symbol with
      | none => .error ⟨position + 1, .operator⟩
      | some op =>
        match afterOperator with
        | ' ' :: operand =>
          match readTerm (position + 3) operand with
          | .error fault => .error fault
          | .ok (term, length) =>
            match readSteps (position + 3 + length) (operand.drop length) with
            | .error fault => .error fault
            | .ok steps => .ok ((op, term) :: steps)
        | _ => .error ⟨position + 2, .space⟩
  | _ :: _ => .error ⟨position, .spaceOrEnd⟩
termination_by text.length
decreasing_by simp; omega

def parseChars (text : List Char) : Except SyntaxFault Formula :=
  match readTerm 0 text with
  | .error fault => .error fault
  | .ok (first, length) =>
    match readSteps length (text.drop length) with
    | .error fault => .error fault
    | .ok steps => .ok ⟨first, steps⟩

def parse (source : String) : Except SyntaxFault Formula :=
  parseChars source.toList

end Formula

end DiceFormula
