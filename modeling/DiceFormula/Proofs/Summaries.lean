/-
# What a formula says about its runs

The identifiers and the rolls of a formula are read off its terms, and a run asks for names
and for dice as it comes to them.  The two agree: the names that a run looks up are the
identifiers once the repetitions are deleted, and the dice that it draws are those of the
rolls.  This holds whatever the terms come to, because a run whose draws are answered makes
the requests of all the terms.  A run that is cut short is described by the summaries of the
part of the formula that it came to.
-/

import DiceFormula.Proofs.Exhaustion
import DiceFormula.Proofs.FirstAppearances

namespace DiceFormula

/-- The name that an event looks up. -/
def Event.name? : Event → Option Name
  | .lookup name => some name
  | .draw _ _ => none

/-- The names that are looked up among some events, repetitions included. -/
def lookupsOf (events : List Event) : List Name :=
  events.filterMap Event.name?

/-- The names in a formula in the order they are written, repetitions included. -/
def Formula.names (formula : Formula) : List Name :=
  formula.terms.filterMap Term.name?

theorem Formula.identifiers_eq (formula : Formula) :
    formula.identifiers = firstAppearances formula.names := rfl

section Requests

theorem lookupsOf_events (term : Term) : lookupsOf term.events = term.name?.toList := by
  cases term with
  | literal value => rfl
  | identifier name => rfl
  | roll count faces =>
      rw [Term.events]
      split
      · rfl
      · have noLookup : ∀ event ∈ List.replicate count (Event.draw 1 faces),
            event.name? = none := by
          intro event member
          rw [List.eq_of_mem_replicate member]
          rfl
        exact List.filterMap_eq_nil_iff.2 noLookup

/-- The terms look up the names in the formula, one after the other. -/
theorem lookupsOf_flatMap_events (terms : List Term) :
    lookupsOf (terms.flatMap Term.events) = terms.filterMap Term.name? := by
  rw [lookupsOf, List.filterMap_flatMap, List.filterMap_eq_flatMap_toList]
  exact congrArg terms.flatMap (funext lookupsOf_events)

/-- Only the rolls among the terms have dice. -/
theorem flatMap_diceBounds_filter (terms : List Term) :
    (terms.filter Term.isRoll).flatMap Term.diceBounds = terms.flatMap Term.diceBounds := by
  induction terms with
  | nil => rfl
  | cons term terms ih =>
      rw [List.filter_cons, List.flatMap_cons, ← ih]
      cases term with
      | literal value => rfl
      | identifier name => rfl
      | roll count faces => rfl

end Requests

namespace Formula

theorem names_join (left : Formula) (op : Operator) (right : Formula) :
    (left.join op right).names = left.names ++ right.names := by
  simp only [names, terms_join, List.filterMap_append]

/-- The requests of a formula are described by its summaries. -/
theorem summaries_events (formula : Formula) :
    (lookupsOf formula.events).eraseDups = formula.identifiers ∧
      drawsOf formula.events = formula.rolls.flatMap Term.diceBounds := by
  constructor
  · rw [events, lookupsOf_flatMap_events, identifiers_eq, firstAppearances_eq_eraseDups]
    rfl
  · rw [events, drawsOf_flatMap_events, rolls, flatMap_diceBounds_filter]

end Formula

end DiceFormula
