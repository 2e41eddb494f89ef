/-
# Paths

A path is a text whose parts are separated by slashes.  In normal form it holds
no empty part and no single dot; two dots stay, since what is above a directory
may depend on the way to it.  Exactly two slashes in front are kept, more of them
are one.
-/

import DiceFormula.Text.Lines

namespace DiceFormula

namespace Path

/-- The parts of a path that lead somewhere. -/
def parts (text : List Char) : List (List Char) :=
  (Text.splitOn '/' text).filter fun part => part ≠ [] && part ≠ ['.']

/-- The slashes in front of a path in normal form. -/
def root (text : List Char) : List Char :=
  match text with
  | '/' :: '/' :: '/' :: _ => ['/']
  | '/' :: '/' :: _ => ['/', '/']
  | '/' :: _ => ['/']
  | _ => []

def normalChars (text : List Char) : List Char :=
  match root text ++ List.intercalate ['/'] (parts text) with
  | [] => ['.']
  | normal => normal

def normal (text : String) : String :=
  String.ofList (normalChars text.toList)

/-- The path of a name in the directory with a path. -/
def child (directory name : String) : String :=
  match normalChars directory.toList with
  | ['.'] => name
  | chars =>
    let separator := if chars.getLast? = some '/' then [] else ['/']
    String.ofList (chars ++ separator ++ name.toList)

/-- Whether a path begins at the root of all directories. -/
def isAbsolute (text : List Char) : Bool :=
  text.head? = some '/'

end Path

end DiceFormula
