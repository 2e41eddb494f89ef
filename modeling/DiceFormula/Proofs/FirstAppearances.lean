/-
# Where members of a list first appear

Deleting from a list all but the first appearance of each member leaves every member once, in
the order of the places where they first appear.  A formula lists its identifiers in this way.
Seen from its end, a list grows by one member, which is either old and leaves no trace or new
and comes last; every statement here follows the list in this direction.
-/

import DiceFormula.Formula
import Mathlib.Data.List.Basic
import Mathlib.Data.List.Induction

namespace DiceFormula

section FirstAppearances

variable {α : Type} [DecidableEq α]

/-- Only a new member leaves a trace at the end. -/
theorem eraseDups_concat (items : List α) (last : α) :
    (items ++ [last]).eraseDups =
      if last ∈ items then items.eraseDups else items.eraseDups ++ [last] := by
  rw [List.eraseDups_append]
  by_cases old : last ∈ items
  · simp [List.removeAll, old]
  · simp [List.removeAll, old, List.eraseDups_cons]

/-- Going through a list and leaving out what has been seen deletes all but the first
appearances. -/
theorem firstAppearances_eq_eraseDups (items : List α) :
    Formula.firstAppearances items = items.eraseDups := by
  induction items using List.reverseRecOn with
  | nil => rfl
  | append_singleton items last ih =>
      have seen := List.reverse_eq_iff.1 ih
      rw [Formula.firstAppearances, List.foldl_append, seen, eraseDups_concat]
      by_cases old : last ∈ items
      · simp [old]
      · simp [old]

theorem mem_firstAppearances {items : List α} {item : α} :
    item ∈ Formula.firstAppearances items ↔ item ∈ items := by
  rw [firstAppearances_eq_eraseDups, List.mem_eraseDups]

/-- What is left stands in the order of the first appearances. -/
theorem pairwise_idxOf_firstAppearances (items : List α) :
    (Formula.firstAppearances items).Pairwise fun earlier later =>
      items.idxOf earlier < items.idxOf later := by
  rw [firstAppearances_eq_eraseDups]
  induction items using List.reverseRecOn with
  | nil => exact .nil
  | append_singleton items last ih =>
      -- The member at the end does not move the places of the others.
      have places : items.eraseDups.Pairwise fun earlier later =>
          (items ++ [last]).idxOf earlier < (items ++ [last]).idxOf later := by
        refine ih.imp_of_mem fun earlier later ordered => ?_
        rwa [List.idxOf_append_of_mem (List.mem_eraseDups.1 earlier),
          List.idxOf_append_of_mem (List.mem_eraseDups.1 later)]
      rw [eraseDups_concat]
      split
      · exact places
      · next new =>
        refine List.pairwise_append.2 ⟨places, List.pairwise_singleton _ _, ?_⟩
        intro earlier member later isLast
        rw [List.mem_singleton.1 isLast, List.idxOf_append, List.idxOf_append,
          if_pos (List.mem_eraseDups.1 member), if_neg new]
        exact Nat.lt_add_left _ (List.idxOf_lt_length_of_mem (List.mem_eraseDups.1 member))

/-- Nothing is left twice. -/
theorem nodup_firstAppearances (items : List α) : (Formula.firstAppearances items).Nodup :=
  (pairwise_idxOf_firstAppearances items).imp fun ordered same => by
    rw [same] at ordered
    exact Nat.lt_irrefl _ ordered

/-- Members that are to be left out can be left out before or afterwards. -/
theorem firstAppearances_filter (kept : α → Bool) (items : List α) :
    Formula.firstAppearances (items.filter kept) =
      (Formula.firstAppearances items).filter kept := by
  simp only [firstAppearances_eq_eraseDups]
  induction items using List.reverseRecOn with
  | nil => rfl
  | append_singleton items last ih =>
      rw [List.filter_append, eraseDups_concat]
      by_cases keeps : kept last = true
      · by_cases old : last ∈ items
        · simp [keeps, old, eraseDups_concat, ih]
        · simp [keeps, old, eraseDups_concat, ih]
      · by_cases old : last ∈ items
        · simp [keeps, old, ih]
        · simp [keeps, old, ih]

/-- Of a second list only the members that the first does not have appear behind it. -/
theorem firstAppearances_append (first second : List α) :
    Formula.firstAppearances (first ++ second) =
      Formula.firstAppearances first ++
        (Formula.firstAppearances second).filter (· ∉ Formula.firstAppearances first) := by
  have left : second.removeAll first =
      second.filter (· ∉ Formula.firstAppearances first) := by
    simp [List.removeAll, mem_firstAppearances]
  rw [← firstAppearances_filter, ← left]
  simp only [firstAppearances_eq_eraseDups, List.eraseDups_append]

end FirstAppearances

/-- The identifiers of a formula are the names of its terms. -/
theorem Formula.mem_identifiers {formula : Formula} {name : Name} :
    name ∈ formula.identifiers ↔ Term.identifier name ∈ formula.terms := by
  have named : ∀ term : Term, term.name? = some name ↔ term = .identifier name := by
    intro term
    cases term <;> simp [Term.name?]
  rw [identifiers, mem_firstAppearances, List.mem_filterMap]
  simp only [named, exists_eq_right]

end DiceFormula
