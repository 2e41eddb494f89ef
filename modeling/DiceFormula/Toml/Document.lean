/-
# Building a TOML document

A document is built from its statements in turn.  Besides the tables made so far
it keeps marks on their paths.  A path is closed when the value there is complete,
an array or an inline table, and nothing may be added at or below it; it is defined
when a table header has named it, and no second header may.  A dotted key makes the
tables on its way; they count as defined from the next header on.
-/

import DiceFormula.Table
import DiceFormula.Toml.Value

namespace DiceFormula

namespace Toml

/-- A key: the tables on its way and its own name. -/
structure Key where
  parents : List String
  name : String
deriving DecidableEq

namespace Key

/-- All names of a key. -/
def path (key : Key) : List String :=
  key.parents ++ [key.name]

end Key

/-- What a mark forbids. -/
inductive MarkKind where
  /-- Adding anything at or below a path. -/
  | closed
  /-- Naming a path in a table header. -/
  | defined
deriving DecidableEq

structure Mark where
  kind : MarkKind
  path : List String
deriving DecidableEq

/-- Whether a path is marked.  A closed path closes everything below it. -/
def isMarked (marks : List Mark) (kind : MarkKind) (path : List String) : Bool :=
  marks.any fun mark =>
    mark.kind = kind && (mark.path = path || (kind = .closed && mark.path.isPrefixOf path))

abbrev Entries := List (String × Value)

/-- Changes the table at the end of a path, making the tables on the way.  An array
on the way stands for its last item, where `throughArrays` allows it. -/
def changeAt (throughArrays : Bool) (change : Entries → Option Entries) :
    List String → Entries → Option Entries
  | [], entries => change entries
  | name :: rest, entries =>
    match Table.find? name entries with
    | none => do
      let inner ← changeAt throughArrays change rest []
      pure (Table.put name (.table inner) entries)
    | some (.table inner) => do
      let inner ← changeAt throughArrays change rest inner
      pure (Table.put name (.table inner) entries)
    | some (.array items) =>
      match throughArrays, items.reverse with
      | true, .table inner :: before => do
        let inner ← changeAt throughArrays change rest inner
        pure (Table.put name (.array (before.reverse ++ [.table inner])) entries)
      | _, _ => none
    | some _ => none

def addEntry (name : String) (value : Value) (entries : Entries) : Option Entries :=
  match Table.find? name entries with
  | none => some (Table.put name value entries)
  | some _ => none

/-- Adds an empty table to the array under a name, making the array if need be. -/
def addItem (name : String) (entries : Entries) : Option Entries :=
  match Table.find? name entries with
  | none => some (Table.put name (.array [.table []]) entries)
  | some (.array items) => some (Table.put name (.array (items ++ [.table []])) entries)
  | some _ => none

inductive Statement where
  /-- Gives a key of the current table a value. -/
  | assign (key : Key) (value : Value)
  | openTable (key : Key)
  /-- Adds a table to an array of tables and makes it the current one. -/
  | openItem (key : Key)

/-- A document while it is built. -/
structure Document where
  entries : Entries
  marks : List Mark
  /-- Paths that will be defined from the next header on. -/
  passed : List (List String)
  current : List String

namespace Document

def empty : Document :=
  ⟨[], [], [], []⟩

/-- The marks once a header has been met. -/
def settledMarks (document : Document) : List Mark :=
  document.passed.map (⟨.defined, ·⟩) ++ document.marks

/-- The paths that the parents of a key pass through on their way from a table. -/
def passedPaths (current : List String) : List String → List (List String)
  | [] => []
  | parent :: rest => (current ++ [parent]) :: passedPaths (current ++ [parent]) rest

/-- Gives a key of the current table a value. -/
def assign (document : Document) (key : Key) (value : Value) : Option Document :=
  let passed := passedPaths document.current key.parents
  let table := document.current ++ key.parents
  if passed.any (isMarked document.marks .defined) || isMarked document.marks .closed table then
    none
  else
    match changeAt true (addEntry key.name value) table document.entries with
    | none => none
    | some entries =>
      let marks :=
        if value.isContainer then
          ⟨.closed, document.current ++ key.path⟩ :: document.marks
        else document.marks
      some ⟨entries, marks, passed ++ document.passed, document.current⟩

def openTable (document : Document) (key : Key) : Option Document :=
  let marks := document.settledMarks
  if isMarked marks .defined key.path || isMarked marks .closed key.path then none
  else
    match changeAt true some key.path document.entries with
    | none => none
    | some entries => some ⟨entries, ⟨.defined, key.path⟩ :: marks, [], key.path⟩

/-- Adds a table to an array of tables.  What was marked at or below the path
belongs to the item before. -/
def openItem (document : Document) (key : Key) : Option Document :=
  let marks := document.settledMarks
  if isMarked marks .closed key.path then none
  else
    match changeAt true (addItem key.name) key.parents document.entries with
    | none => none
    | some entries =>
      let kept := marks.filter fun mark => !key.path.isPrefixOf mark.path
      some ⟨entries, ⟨.defined, key.path⟩ :: kept, [], key.path⟩

def step (document : Document) : Statement → Option Document
  | .assign key value => document.assign key value
  | .openTable key => document.openTable key
  | .openItem key => document.openItem key

def run (document : Document) : List Statement → Option Document
  | [] => some document
  | statement :: rest =>
    match document.step statement with
    | none => none
    | some next => next.run rest

end Document

/-- An inline table while it is read: its entries and the paths that are closed.
The way to an entry leads through tables only. -/
structure InlineTable where
  entries : Entries
  marks : List Mark

namespace InlineTable

def empty : InlineTable :=
  ⟨[], []⟩

def assign (table : InlineTable) (key : Key) (value : Value) : Option InlineTable :=
  if isMarked table.marks .closed key.path then none
  else
    match changeAt false (addEntry key.name value) key.parents table.entries with
    | none => none
    | some entries =>
      let marks :=
        if value.isContainer then ⟨.closed, key.path⟩ :: table.marks else table.marks
      some ⟨entries, marks⟩

end InlineTable

end Toml

end DiceFormula
