/-
# Variables given as texts

An item gives a variable when its first equals sign stands behind a name, and all that
stands behind the sign spells an integer.  Items are read in turn.  The first that gives no
variable stops the reading and is the one complained about; otherwise every name has the
value that it was given last, in the place where it was given first.

What was written down is read back: a name without an equals sign, an equals sign, and the
decimal spelling of an integer.  Reading two lists behind each other lays what the second
gives over what the first gives.
-/

import DiceFormula.CommandLine.Assignment
import DiceFormula.Proofs.IntegerText
import Mathlib.Data.List.Forall2

namespace DiceFormula

/-- Partners can be found for all items if each item has one. -/
theorem exists_forall₂_iff {α β : Type} {related : α → β → Prop} {items : List α} :
    (∃ partners, List.Forall₂ related items partners) ↔
      ∀ item ∈ items, ∃ partner, related item partner := by
  induction items with
  | nil => simp
  | cons item rest ih =>
      rw [List.forall_mem_cons, ← ih]
      constructor
      · rintro ⟨_, _ | ⟨here, later⟩⟩
        exact ⟨⟨_, here⟩, _, later⟩
      · rintro ⟨⟨partner, here⟩, partners, later⟩
        exact ⟨partner :: partners, .cons here later⟩

namespace Assignment

/-- An item gives a name the value of an integer. -/
inductive Gives : String → String × Int → Prop where
  | variable {name value : List Char} {n : Int} (nonempty : name ≠ []) (noEquals : '=' ∉ name)
      (spelled : Text.SpellsInteger value n) :
      Gives (String.ofList (name ++ '=' :: value)) (String.ofList name, n)

/-- What is wrong with an item that gives no variable. -/
inductive Wrong : String → AssignmentFault → Prop where
  | noEquals {item : String} (missing : '=' ∉ item.toList) : Wrong item (.malformed item)
  | noName (value : List Char) :
      Wrong (String.ofList ('=' :: value)) (.malformed (String.ofList ('=' :: value)))
  | noInteger {name value : List Char} (nonempty : name ≠ []) (noEquals : '=' ∉ name)
      (unspelled : ∀ n, ¬ Text.SpellsInteger value n) :
      Wrong (String.ofList (name ++ '=' :: value))
        (.notInteger (String.ofList name) (String.ofList value))

/-- The name in front of the first equals sign and all that stands behind it are looked at. -/
theorem read_split {name value : List Char} (nonempty : name ≠ []) (noEquals : '=' ∉ name) :
    read (String.ofList (name ++ '=' :: value)) =
      match Text.readInt? value with
      | some n => .ok (String.ofList name, n)
      | none => .error (.notInteger (String.ofList name) (String.ofList value)) := by
  have before : ∀ c ∈ name, decide (c ≠ '=') = true := fun c member =>
    decide_eq_true fun same => noEquals (same ▸ member)
  have isName : namePart (name ++ '=' :: value) = name :=
    Text.takeWhile_run before (Text.runEnds_cons.2 (by decide))
  rw [read, String.toList_ofList, isName]
  cases name with
  | nil => exact absurd rfl nonempty
  | cons c rest =>
      rw [List.drop_left]
      rfl

theorem read_of_noEquals {item : String} (missing : '=' ∉ item.toList) :
    read item = .error (.malformed item) := by
  have isName : namePart item.toList = item.toList :=
    List.takeWhile_eq_self_iff.2 fun c member =>
      decide_eq_true fun same => missing (same ▸ member)
  rw [read, isName, List.drop_length]
  cases item.toList <;> rfl

theorem read_of_noName (value : List Char) :
    read (String.ofList ('=' :: value)) = .error (.malformed (String.ofList ('=' :: value))) := by
  rw [read, String.toList_ofList]
  rfl

/-- Every text has its first equals sign behind a name, at its front, or nowhere. -/
theorem exists_split (item : String) :
    (∃ name value, name ≠ [] ∧ '=' ∉ name ∧ item = String.ofList (name ++ '=' :: value)) ∨
      (∃ value, item = String.ofList ('=' :: value)) ∨ '=' ∉ item.toList := by
  by_cases missing : '=' ∉ item.toList
  · exact .inr (.inr missing)
  · obtain ⟨name, value, split, noEquals⟩ := List.eq_append_cons_of_mem (not_not.1 missing)
    have whole : item = String.ofList (name ++ '=' :: value) := by
      rw [← split, String.ofList_toList]
    cases name with
    | nil => exact .inr (.inl ⟨value, whole⟩)
    | cons c rest => exact .inl ⟨c :: rest, value, List.cons_ne_nil c rest, noEquals, whole⟩

theorem read_eq_ok_iff {item : String} {entry : String × Int} :
    read item = .ok entry ↔ Gives item entry := by
  constructor
  · intro succeeds
    rcases exists_split item with ⟨name, value, nonempty, noEquals, rfl⟩ | ⟨value, rfl⟩ | missing
    · rw [read_split nonempty noEquals] at succeeds
      cases spelled : Text.readInt? value with
      | some n =>
          simp only [spelled] at succeeds
          cases succeeds
          exact .variable nonempty noEquals (Text.readInt?_eq_some_iff.1 spelled)
      | none =>
          simp only [spelled] at succeeds
          cases succeeds
    · rw [read_of_noName] at succeeds
      cases succeeds
    · rw [read_of_noEquals missing] at succeeds
      cases succeeds
  · intro gives
    obtain ⟨nonempty, noEquals, spelled⟩ := gives
    rw [read_split nonempty noEquals, Text.readInt?_eq_some_iff.2 spelled]

theorem read_eq_error_iff {item : String} {fault : AssignmentFault} :
    read item = .error fault ↔ Wrong item fault := by
  constructor
  · intro fails
    rcases exists_split item with ⟨name, value, nonempty, noEquals, rfl⟩ | ⟨value, rfl⟩ | missing
    · rw [read_split nonempty noEquals] at fails
      cases spelled : Text.readInt? value with
      | some n =>
          simp only [spelled] at fails
          cases fails
      | none =>
          simp only [spelled] at fails
          cases fails
          refine .noInteger nonempty noEquals fun n spells => ?_
          rw [Text.readInt?_eq_some_iff.2 spells] at spelled
          cases spelled
    · rw [read_of_noName] at fails
      cases fails
      exact .noName value
    · rw [read_of_noEquals missing] at fails
      cases fails
      exact .noEquals missing
  · intro wrong
    cases wrong with
    | noEquals missing => exact read_of_noEquals missing
    | noName value => exact read_of_noName value
    | @noInteger name value nonempty noEquals unspelled =>
        have unread : Text.readInt? value = none :=
          Option.eq_none_iff_forall_ne_some.2 fun n spelled =>
            unspelled n (Text.readInt?_eq_some_iff.1 spelled)
        rw [read_split nonempty noEquals, unread]

variable {items others : List String} {table result : Table Int}

/-- If all items give variables, these are set one after the other. -/
theorem readOver_eq_ok_iff :
    readOver table items = .ok result ↔
      ∃ entries, List.Forall₂ Gives items entries ∧
        result = entries.foldl (fun table entry => table.set entry.1 entry.2) table := by
  induction items generalizing table with
  | nil => simp [readOver, List.forall₂_nil_left_iff, eq_comm]
  | cons item rest ih =>
      rw [readOver]
      constructor
      · intro succeeds
        cases first : read item with
        | error fault =>
            simp only [first] at succeeds
            cases succeeds
        | ok entry =>
            simp only [first] at succeeds
            obtain ⟨entries, give, rfl⟩ := ih.1 succeeds
            exact ⟨entry :: entries, .cons (read_eq_ok_iff.1 first) give, rfl⟩
      · rintro ⟨entries, give, rfl⟩
        cases give with
        | cons gives give =>
            simp only [read_eq_ok_iff.2 gives]
            exact ih.2 ⟨_, give, rfl⟩

/-- The first item that gives no variable is the one complained about. -/
theorem readOver_eq_error_iff {fault : AssignmentFault} :
    readOver table items = .error fault ↔
      ∃ before item after, items = before ++ item :: after ∧
        (∀ earlier ∈ before, ∃ entry, Gives earlier entry) ∧ Wrong item fault := by
  induction items generalizing table with
  | nil => simp [readOver]
  | cons item rest ih =>
      rw [readOver]
      constructor
      · intro fails
        cases first : read item with
        | error found =>
            simp only [first] at fails
            cases fails
            exact ⟨[], item, rest, rfl, List.forall_mem_nil _, read_eq_error_iff.1 first⟩
        | ok entry =>
            simp only [first] at fails
            obtain ⟨before, wrongItem, after, rfl, give, wrong⟩ := ih.1 fails
            have giveAll : ∀ earlier ∈ item :: before, ∃ entry, Gives earlier entry :=
              List.forall_mem_cons.2 ⟨⟨entry, read_eq_ok_iff.1 first⟩, give⟩
            exact ⟨item :: before, wrongItem, after, rfl, giveAll, wrong⟩
      · rintro ⟨before, wrongItem, after, split, give, wrong⟩
        cases before with
        | nil =>
            cases split
            simp only [read_eq_error_iff.2 wrong]
        | cons first before =>
            cases split
            obtain ⟨⟨entry, gives⟩, giveLater⟩ := List.forall_mem_cons.1 give
            simp only [read_eq_ok_iff.2 gives]
            exact ih.2 ⟨before, wrongItem, after, rfl, giveLater, wrong⟩

theorem readOver_append (table : Table Int) (items others : List String) :
    readOver table (items ++ others) =
      match readOver table items with
      | .ok middle => readOver middle others
      | .error fault => .error fault := by
  induction items generalizing table with
  | nil => rfl
  | cons item rest ih =>
      rw [List.cons_append, readOver, readOver]
      cases read item with
      | error fault => rfl
      | ok entry => exact ih (table.set entry.1 entry.2)

theorem exists_readAll_iff :
    (∃ table, readAll items = .ok table) ↔ ∀ item ∈ items, ∃ entry, Gives item entry := by
  rw [← exists_forall₂_iff]
  constructor
  · rintro ⟨table, succeeds⟩
    obtain ⟨entries, give, -⟩ := readOver_eq_ok_iff.1 succeeds
    exact ⟨entries, give⟩
  · rintro ⟨entries, give⟩
    exact ⟨_, readOver_eq_ok_iff.2 ⟨entries, give, rfl⟩⟩

/-- Items behind others are read as if alone, and what they give is laid over what those
give. -/
theorem readAll_append {otherTable : Table Int} (read : readAll items = .ok table)
    (readOthers : readAll others = .ok otherTable) :
    readAll (items ++ others) = .ok (table.overlay otherTable) := by
  obtain ⟨entries, give, rfl⟩ := readOver_eq_ok_iff.1 readOthers
  rw [readAll] at read ⊢
  rw [readOver_append, read, ← Table.ofList, Table.overlay_ofList]
  exact readOver_eq_ok_iff.2 ⟨entries, give, rfl⟩

/-- A name, an equals sign and the decimal spelling of an integer. -/
def write (entry : String × Int) : String :=
  entry.1 ++ "=" ++ Text.intText entry.2

/-- What can be written down and read back. -/
structure Writable (entry : String × Int) : Prop where
  nonempty : entry.1 ≠ ""
  noEquals : '=' ∉ entry.1.toList
  convertible : Text.Convertible entry.2

theorem gives_write {entry : String × Int} (writable : Writable entry) :
    Gives (write entry) entry := by
  obtain ⟨name, n⟩ := entry
  have written : write (name, n) = String.ofList (name.toList ++ '=' :: Text.intDigits n) := by
    apply String.toList_inj.1
    simp [write, Text.intText]
  have nonempty : name.toList ≠ [] := fun empty =>
    writable.nonempty (String.toList_inj.1 (empty.trans rfl))
  have gives := Gives.variable nonempty writable.noEquals
    (Text.spellsInteger_intDigits writable.convertible)
  rwa [← written, String.ofList_toList] at gives

/-- Written variables are read as the table of what was written last for each name. -/
theorem readAll_map_write {entries : List (String × Int)}
    (writable : ∀ entry ∈ entries, Writable entry) :
    readAll (entries.map write) = .ok (Table.ofList entries) := by
  refine readOver_eq_ok_iff.2 ⟨entries, ?_, rfl⟩
  rw [List.forall₂_map_left_iff]
  exact List.forall₂_same.2 fun entry member => gives_write (writable entry member)

/-- Variables that were written down are read back: each name is there once, in the order in
which the names appear first, with the value it was given last.  Reading succeeds exactly if
every item gives a variable, and otherwise complains about the first that does not.  Of two
lists that can be read, the second is laid over the first when they are read in a row: the
values of the second count, and its new names come behind the names of the first. -/
theorem readAll_decodes :
    (∀ entries : List (String × Int), (∀ entry ∈ entries, Writable entry) →
      ∃ table, readAll (entries.map write) = .ok table ∧
        table.names = (entries.map Prod.fst).eraseDups ∧ table.names.Nodup ∧
        ∀ name, table.get? name = Table.find? name entries.reverse) ∧
    (∀ items, (∃ table, readAll items = .ok table) ↔
      ∀ item ∈ items, ∃ entry, Gives item entry) ∧
    (∀ items fault, readAll items = .error fault ↔
      ∃ before item after, items = before ++ item :: after ∧
        (∀ earlier ∈ before, ∃ entry, Gives earlier entry) ∧ Wrong item fault) ∧
    ∀ items others table otherTable, readAll items = .ok table →
      readAll others = .ok otherTable →
      ∃ joined, readAll (items ++ others) = .ok joined ∧ joined = table.overlay otherTable ∧
        joined.names = table.names ++ otherTable.names.filter (· ∉ table.names) ∧
        ∀ name, joined.get? name = (otherTable.get? name).or (table.get? name) := by
  refine ⟨?_, fun items => exists_readAll_iff, fun items fault => readOver_eq_error_iff, ?_⟩
  · intro entries writable
    refine ⟨Table.ofList entries, readAll_map_write writable, ?_,
      (Table.ofList entries).names_nodup, fun name => ?_⟩
    · rw [Table.ofList, Table.names_foldl_set]
      simp [Table.names, Table.empty, List.filter_true]
    · rw [Table.ofList, Table.get?_foldl_set_reverse, Table.get?_empty, Option.or_none]
  · intro items others table otherTable read readOthers
    exact ⟨table.overlay otherTable, readAll_append read readOthers, rfl,
      table.names_overlay otherTable, table.get?_overlay otherTable⟩

end Assignment

end DiceFormula
