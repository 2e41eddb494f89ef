/-
# No name is given twice

In a document that is read, and in every table inside it, no name occurs twice.  Tables only
grow by a name that is put in: a name that is there already keeps its place, so what a
statement does to the tables on its way keeps their names distinct.  Values are read with their
parts, and an inline table grows in the same way while it is read.

The settings of a file rely on this: putting its variables into a table one after the other
neither drops nor moves one of them.
-/

import DiceFormula.Table
import DiceFormula.Toml.Reader

namespace DiceFormula

namespace Toml

/-- No table in the value has a name twice. -/
inductive Value.DistinctNames : Value → Prop where
  | simple {value : Value} (noParts : value.isContainer = false) : DistinctNames value
  | array {items : List Value} (all : ∀ item ∈ items, DistinctNames item) :
      DistinctNames (.array items)
  | table {entries : Entries} (names : (entries.map Prod.fst).Nodup)
      (all : ∀ entry ∈ entries, DistinctNames entry.2) : DistinctNames (.table entries)

/-- No table among the entries has a name twice, nor have the entries themselves. -/
structure DistinctEntries (entries : Entries) : Prop where
  names : (entries.map Prod.fst).Nodup
  values : ∀ entry ∈ entries, entry.2.DistinctNames

namespace DistinctEntries

variable {entries inner : Entries} {name : String} {value : Value}

theorem nil : DistinctEntries [] :=
  ⟨List.nodup_nil, List.forall_mem_nil _⟩

theorem table (distinct : DistinctEntries entries) : (Value.table entries).DistinctNames :=
  .table distinct.names distinct.values

theorem of_table (distinct : (Value.table entries).DistinctNames) : DistinctEntries entries := by
  cases distinct with
  | simple noParts => cases noParts
  | table names all => exact ⟨names, all⟩

theorem of_array {items : List Value} (distinct : (Value.array items).DistinctNames) :
    ∀ item ∈ items, item.DistinctNames := by
  cases distinct with
  | simple noParts => cases noParts
  | array all => exact all

theorem find? (distinct : DistinctEntries entries) (found : Table.find? name entries = some value) :
    value.DistinctNames :=
  distinct.values (name, value) (Table.mem_of_find? found)

theorem put (distinct : DistinctEntries entries) (valueDistinct : value.DistinctNames) :
    DistinctEntries (Table.put name value entries) where
  names := Table.nodup_put distinct.names
  values := by
    intro entry member
    rcases Table.mem_put member with rfl | before
    · exact valueDistinct
    · exact distinct.values entry before

end DistinctEntries

/-- A change that keeps names distinct where it is made. -/
def KeepsDistinct (change : Entries → Option Entries) : Prop :=
  ∀ entries changed, DistinctEntries entries → change entries = some changed →
    DistinctEntries changed

section Changes

variable {name : String} {value : Value} {throughArrays : Bool}
  {change : Entries → Option Entries}

/-- The tables on the way to a change keep their names distinct as well. -/
theorem KeepsDistinct.changeAt (keeps : KeepsDistinct change) (path : List String) :
    KeepsDistinct (changeAt throughArrays change path) := by
  induction path with
  | nil => exact keeps
  | cons name rest ih =>
      intro entries changed distinct made
      rw [Toml.changeAt] at made
      split at made
      next =>
        obtain ⟨inner, innerMade, same⟩ := Option.bind_eq_some_iff.1 made
        obtain rfl := Option.some.inj same
        exact distinct.put (ih _ _ .nil innerMade).table
      next found =>
        obtain ⟨inner, innerMade, same⟩ := Option.bind_eq_some_iff.1 made
        obtain rfl := Option.some.inj same
        exact distinct.put (ih _ _ (.of_table (distinct.find? found)) innerMade).table
      next items found =>
        split at made
        next last before reversed =>
          -- The array stands for its last item, and the items before it stay as they are.
          obtain ⟨inner, innerMade, same⟩ := Option.bind_eq_some_iff.1 made
          obtain rfl := Option.some.inj same
          have itemsDistinct := DistinctEntries.of_array (distinct.find? found)
          have split : items = before.reverse ++ [.table last] := by
            rw [← List.reverse_reverse items, reversed, List.reverse_cons]
          rw [split, List.forall_mem_append, List.forall_mem_singleton] at itemsDistinct
          refine distinct.put (.array (List.forall_mem_append.2 ⟨itemsDistinct.1, ?_⟩))
          exact List.forall_mem_singleton.2
            (ih _ _ (.of_table itemsDistinct.2) innerMade).table
        next => cases made
      next => cases made

theorem keepsDistinct_addEntry (distinct : value.DistinctNames) :
    KeepsDistinct (addEntry name value) := by
  intro entries changed entriesDistinct made
  rw [addEntry] at made
  split at made
  next =>
    obtain rfl := Option.some.inj made
    exact entriesDistinct.put distinct
  next => cases made

theorem keepsDistinct_addItem : KeepsDistinct (addItem name) := by
  intro entries changed distinct made
  have emptyTable : (Value.table []).DistinctNames := DistinctEntries.nil.table
  rw [addItem] at made
  split at made
  next =>
    obtain rfl := Option.some.inj made
    exact distinct.put (.array (List.forall_mem_singleton.2 emptyTable))
  next items found =>
    obtain rfl := Option.some.inj made
    refine distinct.put (.array (List.forall_mem_append.2 ⟨?_, ?_⟩))
    · exact DistinctEntries.of_array (distinct.find? found)
    · exact List.forall_mem_singleton.2 emptyTable
  next => cases made

end Changes

/-- What a changed outcome was before the change. -/
theorem exists_of_map_eq_ok {ε α β : Type} {outcome : Except ε α} {f : α → β} {result : β}
    (mapped : outcome.map f = .ok result) : ∃ value, outcome = .ok value ∧ f value = result := by
  cases outcome with
  | error fault => cases mapped
  | ok value => exact ⟨value, rfl, Except.ok.inj mapped⟩

section Simple

variable {text rest : List Char} {value : Value}

theorem isContainer_of_readBased? {base : Nat} (read : readBased? base text = some (value, rest)) :
    value.isContainer = false := by
  rw [readBased?] at read
  split at read
  next => cases read
  next =>
    obtain ⟨rfl, -⟩ := Prod.mk.inj (Option.some.inj read)
    rfl

theorem isContainer_of_readDecimal? (read : readDecimal? text = some (.ok (value, rest))) :
    value.isContainer = false := by
  rw [readDecimal?] at read
  dsimp only at read
  generalize (if (Text.splitSign text).2.head? = some '0' then ['0']
    else digitRun Char.isDigit (Text.splitSign text).2) = run at read
  split at read
  next => cases read
  next =>
    split at read
    next =>
      split at read
      next => cases read
      next =>
        obtain ⟨rfl, -⟩ := Prod.mk.inj (Except.ok.inj (Option.some.inj read))
        rfl
    next =>
      obtain ⟨rfl, -⟩ := Prod.mk.inj (Except.ok.inj (Option.some.inj read))
      rfl

theorem isContainer_of_readNumber? (read : readNumber? text = some (.ok (value, rest))) :
    value.isContainer = false := by
  rw [readNumber?.eq_def] at read
  dsimp only at read
  split at read
  next number based =>
    obtain rfl := Except.ok.inj (Option.some.inj read)
    split at based
    · exact isContainer_of_readBased? based
    · exact isContainer_of_readBased? based
    · exact isContainer_of_readBased? based
    · cases based
  next => exact isContainer_of_readDecimal? read

theorem isContainer_of_readNumberWord (read : readNumberWord text = .ok (value, rest)) :
    value.isContainer = false := by
  rw [readNumberWord] at read
  dsimp only at read
  split at read
  next =>
    obtain ⟨rfl, -⟩ := Prod.mk.inj (Except.ok.inj read)
    rfl
  next =>
    split at read
    next =>
      obtain ⟨rfl, -⟩ := Prod.mk.inj (Except.ok.inj read)
      rfl
    next => cases read

theorem isContainer_of_readBool? (read : readBool? text = some (value, rest)) :
    value.isContainer = false := by
  rw [readBool?] at read
  split at read
  next =>
    obtain ⟨rfl, -⟩ := Prod.mk.inj (Option.some.inj read)
    rfl
  next =>
    obtain ⟨after, -, same⟩ := Option.map_eq_some_iff.1 read
    obtain ⟨rfl, -⟩ := Prod.mk.inj same
    rfl

/-- What is read as a value without parts is one. -/
theorem isContainer_of_readSimple {bound : Nat}
    (read : readSimple bound text = .ok (value, rest)) : value.isContainer = false := by
  rw [readSimple] at read
  split at read
  next =>
    obtain ⟨⟨string, after⟩, -, same⟩ := exists_of_map_eq_ok read
    obtain ⟨rfl, -⟩ := Prod.mk.inj same
    rfl
  next =>
    split at read
    next boolRead =>
      obtain rfl := Except.ok.inj read
      exact isContainer_of_readBool? boolRead
    next =>
      split at read
      next =>
        obtain ⟨⟨moment, after⟩, -, same⟩ := exists_of_map_eq_ok read
        obtain ⟨rfl, -⟩ := Prod.mk.inj same
        rfl
      next =>
        cases number : readNumber? text with
        | none =>
            rw [number] at read
            exact isContainer_of_readNumberWord read
        | some reading =>
            rw [number] at read
            obtain rfl : reading = .ok (value, rest) := read
            exact isContainer_of_readNumber? number

end Simple

section Values

theorem InlineTable.distinct_assign {table grown : InlineTable} {key : Key} {value : Value}
    (distinct : DistinctEntries table.entries) (valueDistinct : value.DistinctNames)
    (assigned : table.assign key value = some grown) : DistinctEntries grown.entries := by
  rw [InlineTable.assign] at assigned
  split at assigned
  next => cases assigned
  next =>
    split at assigned
    next => cases assigned
    next entries made =>
      obtain rfl := Option.some.inj assigned
      exact (keepsDistinct_addEntry valueDistinct).changeAt _ _ _ distinct made

/-- What is read within a bound has distinct names: a value, the items of an array, and an inline
table that had distinct names so far. -/
structure ReadsDistinct (bound : Nat) : Prop where
  value : ∀ text value rest, readValue bound text = .ok (value, rest) → value.DistinctNames
  items : ∀ text items rest, readItems bound text = .ok (items, rest) →
    ∀ item ∈ items, item.DistinctNames
  inline : ∀ table text grown rest, DistinctEntries table.entries →
    readInline bound table text = .ok (grown, rest) → DistinctEntries grown.entries

theorem readsDistinct (bound : Nat) : ReadsDistinct bound := by
  -- All three readers call each other within the next smaller bound.
  induction bound with
  | zero =>
      constructor
      · intro text value rest read
        rw [readValue] at read
        cases read
      · intro text items rest read
        rw [readItems] at read
        cases read
      · intro table text grown rest distinct read
        rw [readInline] at read
        cases read
  | succ bound ih =>
      constructor
      · intro text value rest read
        rw [readValue.eq_def] at read
        dsimp only at read
        split at read
        next =>
          split at read
          next => cases read
          next =>
            obtain ⟨rfl, -⟩ := Prod.mk.inj (Except.ok.inj read)
            exact .array (List.forall_mem_nil _)
          next =>
            obtain ⟨⟨items, after⟩, itemsRead, same⟩ := exists_of_map_eq_ok read
            obtain ⟨rfl, -⟩ := Prod.mk.inj same
            exact .array (ih.items _ _ _ itemsRead)
        next =>
          split at read
          next =>
            obtain ⟨rfl, -⟩ := Prod.mk.inj (Except.ok.inj read)
            exact DistinctEntries.nil.table
          next =>
            obtain ⟨⟨table, after⟩, tableRead, same⟩ := exists_of_map_eq_ok read
            obtain ⟨rfl, -⟩ := Prod.mk.inj same
            exact (ih.inline _ _ _ _ .nil tableRead).table
        next => exact .simple (isContainer_of_readSimple read)
      · intro text items rest read
        rw [readItems] at read
        split at read
        next => cases read
        next item after itemRead =>
          have itemDistinct := ih.value _ _ _ itemRead
          split at read
          next => cases read
          next =>
            obtain ⟨rfl, -⟩ := Prod.mk.inj (Except.ok.inj read)
            exact List.forall_mem_singleton.2 itemDistinct
          next =>
            split at read
            next => cases read
            next =>
              obtain ⟨rfl, -⟩ := Prod.mk.inj (Except.ok.inj read)
              exact List.forall_mem_singleton.2 itemDistinct
            next =>
              obtain ⟨⟨others, after⟩, othersRead, same⟩ := exists_of_map_eq_ok read
              obtain ⟨rfl, -⟩ := Prod.mk.inj same
              exact List.forall_mem_cons.2 ⟨itemDistinct, ih.items _ _ _ othersRead⟩
          next => cases read
      · intro table text grown rest distinct read
        rw [readInline] at read
        split at read
        next => cases read
        next key afterKey keyRead =>
          split at read
          next => cases read
          next =>
            split at read
            next => cases read
            next value afterValue valueRead =>
              split at read
              next => cases read
              next table assigned =>
                have tableDistinct :=
                  InlineTable.distinct_assign distinct (ih.value _ _ _ valueRead) assigned
                split at read
                next =>
                  obtain ⟨rfl, -⟩ := Prod.mk.inj (Except.ok.inj read)
                  exact tableDistinct
                next => exact ih.inline _ _ _ _ tableDistinct read
                next => cases read

end Values

section Statements

/-- The value that a statement gives has distinct names. -/
def Statement.DistinctNames : Statement → Prop
  | .assign _ value => value.DistinctNames
  | _ => True

theorem distinctNames_of_readStatement {bound : Nat} {text rest : List Char} {statement : Statement}
    (read : readStatement bound text = .ok (statement, rest)) : statement.DistinctNames := by
  rw [readStatement.eq_def] at read
  split at read
  next =>
    obtain ⟨⟨key, after⟩, -, same⟩ := exists_of_map_eq_ok read
    obtain ⟨rfl, -⟩ := Prod.mk.inj same
    trivial
  next =>
    obtain ⟨⟨key, after⟩, -, same⟩ := exists_of_map_eq_ok read
    obtain ⟨rfl, -⟩ := Prod.mk.inj same
    trivial
  next =>
    split at read
    next => cases read
    next =>
      split at read
      next => cases read
      next =>
        obtain ⟨⟨value, after⟩, valueRead, same⟩ := exists_of_map_eq_ok read
        obtain ⟨rfl, -⟩ := Prod.mk.inj same
        exact (readsDistinct bound).value _ _ _ valueRead

theorem distinctNames_of_mem_readStatements (bound : Nat) (text : List Char) :
    ∀ statement ∈ (readStatements bound text).1, statement.DistinctNames := by
  fun_induction readStatements bound text with
  | case1 => exact List.forall_mem_nil _
  | case2 => exact List.forall_mem_nil _
  | case3 _ _ _ _ ih => exact ih
  | case4 => exact List.forall_mem_nil _
  | case5 _ _ _ _ _ _ ih => exact ih
  | case6 => exact List.forall_mem_nil _
  | case7 _ _ _ _ _ _ _ _ _ read =>
      exact List.forall_mem_singleton.2 (distinctNames_of_readStatement read)
  | case8 _ _ _ _ _ _ _ _ later _ _ _ read ih =>
      rw [later] at ih
      exact List.forall_mem_cons.2 ⟨distinctNames_of_readStatement read, ih⟩

/-- A statement keeps the names of a document distinct. -/
theorem Document.distinct_step {document next : Document} {statement : Statement}
    (distinct : DistinctEntries document.entries) (given : statement.DistinctNames)
    (stepped : document.step statement = some next) : DistinctEntries next.entries := by
  cases statement with
  | assign key value =>
      rw [step, assign] at stepped
      dsimp only at stepped
      split at stepped
      next => cases stepped
      next =>
        split at stepped
        next => cases stepped
        next entries made =>
          obtain rfl := Option.some.inj stepped
          exact (keepsDistinct_addEntry given).changeAt _ _ _ distinct made
  | openTable key =>
      rw [step, openTable] at stepped
      split at stepped
      next => cases stepped
      next =>
        split at stepped
        next => cases stepped
        next entries made =>
          obtain rfl := Option.some.inj stepped
          have keeps : KeepsDistinct some := by
            intro entries changed entriesDistinct same
            exact Option.some.inj same ▸ entriesDistinct
          exact keeps.changeAt _ _ _ distinct made
  | openItem key =>
      rw [step, openItem] at stepped
      split at stepped
      next => cases stepped
      next =>
        split at stepped
        next => cases stepped
        next entries made =>
          obtain rfl := Option.some.inj stepped
          exact keepsDistinct_addItem.changeAt _ _ _ distinct made

theorem Document.distinct_run {document last : Document} {statements : List Statement}
    (distinct : DistinctEntries document.entries)
    (given : ∀ statement ∈ statements, statement.DistinctNames)
    (ran : document.run statements = some last) : DistinctEntries last.entries := by
  induction statements generalizing document with
  | nil =>
      obtain rfl := Option.some.inj ran
      exact distinct
  | cons statement rest ih =>
      rw [List.forall_mem_cons] at given
      rw [run] at ran
      split at ran
      next => cases ran
      next next stepped => exact ih (distinct_step distinct given.1 stepped) given.2 ran

/-- A document that is read has distinct names throughout. -/
theorem distinct_of_parse {text : List Char} {entries : Entries} (read : parse text = .ok entries) :
    DistinctEntries entries := by
  rw [parse] at read
  dsimp only at read
  split at read
  next => cases read
  next => cases read
  next document ran _ =>
    obtain rfl := Except.ok.inj read
    exact Document.distinct_run .nil (distinctNames_of_mem_readStatements _ text) ran

end Statements

end Toml

end DiceFormula
