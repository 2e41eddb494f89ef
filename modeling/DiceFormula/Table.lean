/-
# Tables of named values

A table keeps its entries in the order in which their names were first set.
Setting a name again keeps its place; erasing a name and setting it again moves
it to the end.  No name occurs twice, and the laws below say what each operation
does to a look-up.
-/

namespace DiceFormula

/-- Named values in the order of their first setting. -/
structure Table (α : Type) where
  entries : List (String × α)
  names_nodup : (entries.map Prod.fst).Nodup
deriving DecidableEq

namespace Table

variable {α β : Type}

def empty : Table α :=
  ⟨[], List.nodup_nil⟩

def names (table : Table α) : List String :=
  table.entries.map Prod.fst

/-- The value of a name in a list of entries. -/
def find? (name : String) : List (String × α) → Option α
  | [] => none
  | (key, value) :: rest => if key = name then some value else find? name rest

def get? (table : Table α) (name : String) : Option α :=
  find? name table.entries

/-- Replaces the value of a name where it stands, or puts it at the end. -/
def put (name : String) (value : α) : List (String × α) → List (String × α)
  | [] => [(name, value)]
  | (key, old) :: rest =>
    if key = name then (key, value) :: rest else (key, old) :: put name value rest

/-- The names after a setting: as before, or with the new name at the end. -/
theorem map_fst_put (name : String) (value : α) (entries : List (String × α)) :
    (put name value entries).map Prod.fst =
      if name ∈ entries.map Prod.fst then entries.map Prod.fst
      else entries.map Prod.fst ++ [name] := by
  induction entries with
  | nil => simp [put]
  | cons entry rest ih =>
    obtain ⟨key, old⟩ := entry
    by_cases same : key = name
    · simp [put, same]
    · have other : ¬ name = key := fun h => same h.symm
      by_cases found : name ∈ rest.map Prod.fst <;> simp_all [put]

theorem nodup_put {name : String} {value : α} {entries : List (String × α)}
    (h : (entries.map Prod.fst).Nodup) : ((put name value entries).map Prod.fst).Nodup := by
  rw [map_fst_put]
  split
  · exact h
  · rename_i fresh
    rw [List.nodup_append]
    refine ⟨h, by simp, ?_⟩
    intro a inside b last
    rw [List.mem_singleton] at last
    subst last
    intro same
    exact fresh (same ▸ inside)

def set (table : Table α) (name : String) (value : α) : Table α :=
  ⟨put name value table.entries, nodup_put table.names_nodup⟩

/-- Takes a name out. -/
def erase (table : Table α) (name : String) : Table α :=
  ⟨table.entries.filter fun entry => entry.1 ≠ name,
    table.names_nodup.sublist (List.filter_sublist.map Prod.fst)⟩

/-- Sets every entry of the second table over the first. -/
def overlay (base upper : Table α) : Table α :=
  upper.entries.foldl (fun table entry => table.set entry.1 entry.2) base

/-- The table that results from setting the entries of a list in turn. -/
def ofList (entries : List (String × α)) : Table α :=
  entries.foldl (fun table entry => table.set entry.1 entry.2) empty

/-- Changes every value. -/
def map (f : α → β) (table : Table α) : Table β :=
  ⟨table.entries.map fun entry => (entry.1, f entry.2), by
    simpa [List.map_map, Function.comp_def] using table.names_nodup⟩

theorem find?_put_self (name : String) (value : α) (entries : List (String × α)) :
    find? name (put name value entries) = some value := by
  induction entries with
  | nil => simp [put, find?]
  | cons entry rest ih =>
    obtain ⟨key, old⟩ := entry
    by_cases same : key = name <;> simp [put, find?, same, ih]

theorem find?_put_of_ne {name other : String} (h : other ≠ name) (value : α)
    (entries : List (String × α)) : find? other (put name value entries) = find? other entries := by
  have swapped : ¬ name = other := fun e => h e.symm
  induction entries with
  | nil => simp [put, find?, swapped]
  | cons entry rest ih =>
    obtain ⟨key, old⟩ := entry
    by_cases same : key = name
    · subst same
      simp [put, find?, swapped]
    · simp [put, find?, same, ih]

/-- A name has the value last given to it. -/
@[simp]
theorem get?_set_self (table : Table α) (name : String) (value : α) :
    (table.set name value).get? name = some value :=
  find?_put_self name value table.entries

/-- Setting a name leaves the others alone. -/
theorem get?_set_of_ne (table : Table α) {name other : String} (h : other ≠ name) (value : α) :
    (table.set name value).get? other = table.get? other :=
  find?_put_of_ne h value table.entries

@[simp]
theorem get?_empty (name : String) : (empty : Table α).get? name = none :=
  rfl

theorem find?_eq_none {name : String} {entries : List (String × α)}
    (absent : name ∉ entries.map Prod.fst) : find? name entries = none := by
  induction entries with
  | nil => rfl
  | cons entry rest ih =>
    obtain ⟨key, value⟩ := entry
    rw [List.map_cons, List.mem_cons, not_or] at absent
    rw [find?, if_neg fun same => absent.1 same.symm]
    exact ih absent.2

theorem mem_of_find? {name : String} {value : α} {entries : List (String × α)}
    (found : find? name entries = some value) : (name, value) ∈ entries := by
  induction entries with
  | nil => cases found
  | cons entry rest ih =>
    obtain ⟨key, other⟩ := entry
    rw [find?] at found
    split at found
    next same =>
      rw [← same, ← Option.some.inj found]
      exact List.mem_cons_self
    next => exact List.mem_cons_of_mem _ (ih found)

theorem mem_put {name : String} {value : α} {entries : List (String × α)} {entry : String × α}
    (member : entry ∈ put name value entries) : entry = (name, value) ∨ entry ∈ entries := by
  induction entries with
  | nil => exact .inl (List.mem_singleton.1 member)
  | cons first rest ih =>
    obtain ⟨key, old⟩ := first
    rw [put] at member
    split at member
    next same =>
      rw [List.mem_cons, same] at member
      exact member.imp_right (List.mem_cons_of_mem _)
    next =>
      rcases List.mem_cons.1 member with rfl | later
      · exact .inr List.mem_cons_self
      · exact (ih later).imp_right (List.mem_cons_of_mem _)

/-- A new name comes behind all others. -/
theorem put_of_notMem {name : String} {entries : List (String × α)}
    (absent : name ∉ entries.map Prod.fst) (value : α) :
    put name value entries = entries ++ [(name, value)] := by
  induction entries with
  | nil => rfl
  | cons entry rest ih =>
    obtain ⟨key, old⟩ := entry
    rw [List.map_cons, List.mem_cons, not_or] at absent
    rw [put, if_neg fun same => absent.1 same.symm, ih absent.2, List.cons_append]

/-- Set one after the other, entries with different names go before what was there. -/
theorem get?_foldl_set {entries : List (String × α)} (nodup : (entries.map Prod.fst).Nodup)
    (base : Table α) (name : String) :
    (entries.foldl (fun table entry => table.set entry.1 entry.2) base).get? name =
      (find? name entries).or (base.get? name) := by
  induction entries generalizing base with
  | nil => rfl
  | cons entry rest ih =>
    obtain ⟨key, value⟩ := entry
    rw [List.map_cons, List.nodup_cons] at nodup
    rw [List.foldl_cons, ih nodup.2, find?]
    by_cases same : key = name
    · subst same
      rw [find?_eq_none nodup.1, get?_set_self, if_pos rfl]
      rfl
    · rw [get?_set_of_ne base (fun other => same other.symm), if_neg same]

/-- The upper table goes before the lower. -/
theorem get?_overlay (base upper : Table α) (name : String) :
    (base.overlay upper).get? name = (upper.get? name).or (base.get? name) :=
  get?_foldl_set upper.names_nodup base name

/-- Of two settings of a name the later counts. -/
theorem put_put_self (name : String) (value old : α) (entries : List (String × α)) :
    put name value (put name old entries) = put name value entries := by
  induction entries with
  | nil => simp [put]
  | cons entry rest ih =>
    obtain ⟨key, older⟩ := entry
    by_cases same : key = name
    · simp [put, same]
    · simp [put, same, ih]

/-- A name that is there can be set before or after another name. -/
theorem put_comm {name other : String} (h : other ≠ name) (value otherValue : α)
    {entries : List (String × α)} (present : name ∈ entries.map Prod.fst) :
    put name value (put other otherValue entries) =
      put other otherValue (put name value entries) := by
  induction entries with
  | nil => cases present
  | cons entry rest ih =>
    obtain ⟨key, old⟩ := entry
    by_cases same : key = name
    · have notOther : ¬ name = other := fun e => h e.symm
      simp [put, same, notOther]
    · have later : name ∈ rest.map Prod.fst := by
        rcases List.mem_cons.1 present with here | later
        · exact absurd here.symm same
        · exact later
      by_cases sameOther : key = other
      · simp [put, sameOther, h]
      · simp [put, same, sameOther, ih later]

/-- A name that is there and is not among those set afterwards can be set first. -/
theorem put_foldl_put {name : String} (value : α) {base : List (String × α)}
    (present : name ∈ base.map Prod.fst) {entries : List (String × α)}
    (absent : name ∉ entries.map Prod.fst) :
    put name value (entries.foldl (fun table entry => put entry.1 entry.2 table) base) =
      entries.foldl (fun table entry => put entry.1 entry.2 table) (put name value base) := by
  induction entries generalizing base with
  | nil => rfl
  | cons entry rest ih =>
    obtain ⟨key, other⟩ := entry
    rw [List.map_cons, List.mem_cons, not_or] at absent
    have stillPresent : name ∈ (put key other base).map Prod.fst := by
      rw [map_fst_put]
      split
      · exact present
      · exact List.mem_append_left [key] present
    rw [List.foldl_cons, List.foldl_cons, ih stillPresent absent.2,
      put_comm (fun same => absent.1 same.symm) value other present]

/-- Laying a changed table over another changes the result in the same way. -/
theorem foldl_put_put (name : String) (value : α) {entries : List (String × α)}
    (nodup : (entries.map Prod.fst).Nodup) (base : List (String × α)) :
    (put name value entries).foldl (fun table entry => put entry.1 entry.2 table) base =
      put name value (entries.foldl (fun table entry => put entry.1 entry.2 table) base) := by
  induction entries generalizing base with
  | nil => rfl
  | cons entry rest ih =>
    obtain ⟨key, old⟩ := entry
    rw [List.map_cons, List.nodup_cons] at nodup
    by_cases same : key = name
    · subst same
      have present : key ∈ (put key old base).map Prod.fst := by
        rw [map_fst_put]
        split
        · assumption
        · exact List.mem_append_right _ (List.mem_singleton_self key)
      rw [put, if_pos rfl, List.foldl_cons, List.foldl_cons, put_foldl_put value present nodup.1,
        put_put_self]
    · rw [put, if_neg same, List.foldl_cons, List.foldl_cons, ih nodup.2]

theorem eq_of_entries_eq {table other : Table α} (same : table.entries = other.entries) :
    table = other := by
  cases table
  cases other
  simp_all

@[simp]
theorem entries_set (table : Table α) (name : String) (value : α) :
    (table.set name value).entries = put name value table.entries :=
  rfl

theorem entries_foldl_set (base : Table α) (entries : List (String × α)) :
    (entries.foldl (fun table entry => table.set entry.1 entry.2) base).entries =
      entries.foldl (fun table entry => put entry.1 entry.2 table) base.entries := by
  induction entries generalizing base with
  | nil => rfl
  | cons entry rest ih => exact ih (base.set entry.1 entry.2)

theorem overlay_set (base upper : Table α) (name : String) (value : α) :
    base.overlay (upper.set name value) = (base.overlay upper).set name value := by
  apply eq_of_entries_eq
  rw [entries_set, overlay, overlay, entries_foldl_set, entries_foldl_set, entries_set]
  exact foldl_put_put name value upper.names_nodup base.entries

/-- Setting entries in turn is laying the table of the entries over what was there. -/
theorem overlay_ofList (base : Table α) (entries : List (String × α)) :
    base.overlay (ofList entries) =
      entries.foldl (fun table entry => table.set entry.1 entry.2) base := by
  have overlaid (upper : Table α) :
      base.overlay (entries.foldl (fun table entry => table.set entry.1 entry.2) upper) =
        entries.foldl (fun table entry => table.set entry.1 entry.2) (base.overlay upper) := by
    induction entries generalizing upper with
    | nil => rfl
    | cons entry rest ih => rw [List.foldl_cons, List.foldl_cons, ih, overlay_set]
  exact overlaid empty

/-- Set one after the other, entries come behind those that were there, each name where it is
set for the first time. -/
theorem names_foldl_set (base : Table α) (entries : List (String × α)) :
    (entries.foldl (fun table entry => table.set entry.1 entry.2) base).names =
      base.names ++ ((entries.map Prod.fst).filter (· ∉ base.names)).eraseDups := by
  induction entries generalizing base with
  | nil => simp
  | cons entry rest ih =>
    obtain ⟨key, value⟩ := entry
    have names_set : (base.set key value).names =
        if key ∈ base.names then base.names else base.names ++ [key] := map_fst_put key value _
    rw [List.foldl_cons, ih, names_set, List.map_cons]
    by_cases present : key ∈ base.names
    · rw [if_pos present, List.filter_cons_of_neg (by simpa using present)]
    · rw [if_neg present, List.filter_cons_of_pos (by simpa using present), List.eraseDups_cons,
        List.filter_filter, List.append_assoc, List.singleton_append]
      congr 4
      funext other
      by_cases same : other = key <;> simp [same]

/-- The upper table's names come behind those of the lower, except for those that are there. -/
theorem names_overlay (base upper : Table α) :
    (base.overlay upper).names = base.names ++ upper.names.filter (· ∉ base.names) := by
  have eraseDups_eq {names : List String} (nodup : names.Nodup) : names.eraseDups = names := by
    induction names with
    | nil => rfl
    | cons name rest ih =>
      rw [List.nodup_cons] at nodup
      have others : ∀ other ∈ rest, (!other == name) = true := by
        intro other member
        have different : other ≠ name := fun same => nodup.1 (same ▸ member)
        simpa using different
      rw [List.eraseDups_cons, List.filter_eq_self.2 others, ih nodup.2]
  rw [overlay, names_foldl_set, eraseDups_eq (upper.names_nodup.filter _)]
  rfl

/-- The last value set for a name goes before what was there. -/
theorem get?_foldl_set_reverse (base : Table α) (entries : List (String × α)) (name : String) :
    (entries.foldl (fun table entry => table.set entry.1 entry.2) base).get? name =
      (find? name entries.reverse).or (base.get? name) := by
  have find?_append (front back : List (String × α)) :
      find? name (front ++ back) = (find? name front).or (find? name back) := by
    induction front with
    | nil => rfl
    | cons entry rest ih =>
      obtain ⟨key, value⟩ := entry
      rw [List.cons_append, find?, find?, ih]
      split <;> rfl
  induction entries generalizing base with
  | nil => rfl
  | cons entry rest ih =>
    obtain ⟨key, value⟩ := entry
    rw [List.foldl_cons, ih, List.reverse_cons, find?_append, Option.or_assoc, find?]
    by_cases same : key = name
    · subst same
      rw [get?_set_self, if_pos rfl]
      rfl
    · rw [get?_set_of_ne base (fun other => same other.symm), if_neg same]
      rfl

theorem get?_map (f : α → β) (table : Table α) (name : String) :
    (table.map f).get? name = (table.get? name).map f := by
  show find? name (table.entries.map _) = (find? name table.entries).map f
  induction table.entries with
  | nil => rfl
  | cons entry rest ih =>
    obtain ⟨key, value⟩ := entry
    rw [List.map_cons, find?, find?, ih]
    by_cases same : key = name
    · rw [if_pos same, if_pos same]
      rfl
    · rw [if_neg same, if_neg same]

end Table

end DiceFormula
