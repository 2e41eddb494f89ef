/-
# Nested chains

A tree of layers and chains is asked for names only, and what it answers can be read off its
layers alone: the value of a name is the first one that the layers have from left to right.
How the layers are nested into chains does not matter, and neither do chains without members
and layers without entries.

Trees with the same layers may therefore be exchanged for each other.  An evaluation cannot
tell them apart: with either of them it comes to the same, makes the same requests and leaves
the source in the same state, whatever the source does.
-/

import DiceFormula.Proofs.TwoRuns

namespace DiceFormula

section Resolvers

variable {ρ ρ' σ : Type} [Resolver ρ] [Resolver ρ'] [RandomSource σ]
  {resolver : ρ} {other : ρ'}

/-- Resolvers that agree on the names of a formula lead an evaluation on one source to the
same outcome, through the same requests and to the same state of the source. -/
theorem Formula.evaluate_play_congr {formula : Formula}
    (stateless : Resolver.Stateless resolver) (otherStateless : Resolver.Stateless other)
    (agree : ∀ name ∈ formula.identifiers,
      (Resolver.lookUp resolver name.text).1 = (Resolver.lookUp other name.text).1)
    (play : Play σ) :
    (formula.evaluate resolver play).1 = (formula.evaluate other play).1 ∧
    (formula.evaluate resolver play).2.toPlay = (formula.evaluate other play).2.toPlay := by
  obtain ⟨source, record⟩ := play
  rcases answers_or_refuses source formula.events with
    ⟨values, next, answers⟩ | ⟨made, failure, next, refuses⟩
  · obtain ⟨outcomes, resolves, resolves'⟩ :=
      ResolvesAll.exists_alike stateless otherStateless
        (fun name member => agree name (mem_identifiers.2 member)) answers answers
    cases outcomes with
    | nil => cases resolves
    | cons first rest =>
        rw [resolves.evaluate_eq, resolves'.evaluate_eq]
        exact ⟨rfl, rfl⟩
  · rw [evaluate_of_refuses refuses, evaluate_of_refuses refuses]
    exact ⟨rfl, rfl⟩

/-- With either of two resolvers every formula comes to the same, makes the same requests and
leaves the source in the same state, on every source. -/
def Interchangeable (resolver : ρ) (other : ρ') : Prop :=
  ∀ {σ : Type} [RandomSource σ] (formula : Formula) (play : Play σ),
    (formula.evaluate resolver play).1 = (formula.evaluate other play).1 ∧
    (formula.evaluate resolver play).2.toPlay = (formula.evaluate other play).2.toPlay

/-- Resolvers that find the same for every name may be exchanged for each other. -/
theorem interchangeable_of_lookUp (stateless : Resolver.Stateless resolver)
    (otherStateless : Resolver.Stateless other)
    (same : ∀ name, (Resolver.lookUp resolver name).1 = (Resolver.lookUp other name).1) :
    Interchangeable resolver other := by
  intro σ _ formula play
  apply formula.evaluate_play_congr stateless otherStateless
  intro name _
  exact same name.text

end Resolvers

namespace Layer

theorem resolve_eq_some_iff {layer : Layer} {name : String} {value : Int} :
    layer.resolve name = some value ↔ layer.get? name = some (some value) :=
  Option.join_eq_some_iff

/-- An entry without a value counts as none at all. -/
theorem resolve_eq_none_iff {layer : Layer} {name : String} :
    layer.resolve name = none ↔ layer.get? name = none ∨ layer.get? name = some none :=
  Option.join_eq_none_iff

end Layer

namespace Variables

/-- A tree is asked for names and never changes. -/
instance : Resolver Variables :=
  ⟨fun tree name => (tree.resolve name, tree)⟩

theorem stateless (tree : Variables) : Resolver.Stateless tree :=
  fun _ => rfl

mutual

/-- The value of a name is the first one that the layers have. -/
theorem resolve_eq_findSome? :
    (tree : Variables) → (name : String) →
      tree.resolve name = tree.leaves.findSome? (Layer.resolve · name)
  | layer entries, name => by
    rw [resolve, leaves, List.findSome?_singleton]
  | chain members, name => by
    rw [resolve, leaves]
    exact resolveFirst_eq_findSome? members name

/-- Members in turn are as good as their layers in turn. -/
theorem resolveFirst_eq_findSome? :
    (members : List Variables) → (name : String) →
      resolveFirst members name = (leavesOf members).findSome? (Layer.resolve · name)
  | [], name => rfl
  | member :: rest, name => by
    rw [resolveFirst, leavesOf, List.findSome?_append, ← resolve_eq_findSome? member,
      ← resolveFirst_eq_findSome? rest]
    cases member.resolve name <;> rfl

end

/-- The layers of a tree from left to right, without those that have no entries. -/
def filledLeaves (tree : Variables) : List Layer :=
  tree.leaves.filter fun layer => layer.entries ≠ []

/-- Layers without entries need not be asked, since they have no value for any name. -/
theorem resolve_eq_findSome?_filledLeaves (tree : Variables) (name : String) :
    tree.resolve name = tree.filledLeaves.findSome? (Layer.resolve · name) := by
  rw [resolve_eq_findSome?, filledLeaves]
  induction tree.leaves with
  | nil => rfl
  | cons layer rest ih =>
      by_cases empty : layer.entries = []
      · have nothing : layer.resolve name = none := by
          rw [Layer.resolve, Table.get?, empty]
          rfl
        rw [List.filter_cons_of_neg (by simpa using empty), ← ih, List.findSome?_cons, nothing]
      · rw [List.filter_cons_of_pos (by simpa using empty), List.findSome?_cons,
          List.findSome?_cons, ih]

theorem leaves_ofLayers (layers : List Layer) : (ofLayers layers).leaves = layers := by
  rw [ofLayers, leaves]
  induction layers with
  | nil => rfl
  | cons layer rest ih => rw [List.map_cons, leavesOf, ih, leaves, List.singleton_append]

/-- Chains flatten.  The value of a name is the one in the first layer from left to right
that has a value for it, be it zero; an entry without a value counts as none at all, and a
name has no value if no layer has one.  So trees whose layers are the same from left to right,
layers without entries apart, have the same values for all names, however they are nested, and
an evaluation goes the same way with either, be it given the tree or only its look-up. -/
theorem resolve_flattened (tree : Variables) :
    (∀ name value, tree.resolve name = some value ↔
      ∃ before layer later, tree.leaves = before ++ layer :: later ∧
        layer.get? name = some (some value) ∧
        ∀ earlier ∈ before, earlier.get? name = none ∨ earlier.get? name = some none) ∧
    (∀ name, tree.resolve name = none ↔
      ∀ layer ∈ tree.leaves, layer.get? name = none ∨ layer.get? name = some none) ∧
    ∀ other : Variables, other.filledLeaves = tree.filledLeaves →
      (∀ name, other.resolve name = tree.resolve name) ∧ Interchangeable other tree ∧
      Interchangeable other.resolve tree := by
  refine ⟨?_, ?_, ?_⟩
  · intro name value
    rw [resolve_eq_findSome?, List.findSome?_eq_some_iff]
    simp only [Layer.resolve_eq_some_iff, Layer.resolve_eq_none_iff]
  · intro name
    rw [resolve_eq_findSome?, List.findSome?_eq_none_iff]
    simp only [Layer.resolve_eq_none_iff]
  · intro other sameLayers
    have same (name : String) : other.resolve name = tree.resolve name := by
      rw [resolve_eq_findSome?_filledLeaves, resolve_eq_findSome?_filledLeaves, sameLayers]
    exact ⟨same, interchangeable_of_lookUp other.stateless tree.stateless same,
      interchangeable_of_lookUp (fun _ => rfl) tree.stateless same⟩

/-- An entry without a value, a zero, a chain without members and a layer without entries. -/
theorem resolve_flattened_blanksAndZero :
    let blank : Layer := Table.empty.set "x" none
    let sheet : Layer := (Table.empty.set "x" (some 0)).set "y" (some 3)
    let stats : Layer := Table.empty.set "x" (some 8)
    let tree := chain [chain [], layer blank, chain [layer .empty, chain [layer sheet]], layer stats]
    let other := chain [chain [layer blank, layer sheet], chain [layer stats, chain []]]
    other.filledLeaves = tree.filledLeaves ∧ other.resolve "x" = tree.resolve "x" ∧
    tree.resolve "x" = some 0 ∧ tree.resolve "z" = none ∧ Interchangeable other tree := by
  intro blank sheet stats tree other
  have sameLayers : other.filledLeaves = tree.filledLeaves := by decide
  obtain ⟨first, none, nested⟩ := resolve_flattened tree
  have zero : tree.resolve "x" = some 0 :=
    (first "x" 0).2 ⟨[blank, .empty], sheet, [stats], rfl, by decide, by decide⟩
  have missing : tree.resolve "z" = Option.none := (none "z").2 (by decide)
  obtain ⟨same, interchangeable, -⟩ := nested other sameLayers
  exact ⟨sameLayers, same "x", zero, missing, interchangeable⟩

end Variables

end DiceFormula
