/-
# Layers merged into one

Layers can be asked in turn, or they can be laid over each other, the last one at the bottom,
and the one layer that results be asked.  Where every entry has a value both ways find the
same: the entries of an earlier layer hide those of the later ones.

An entry without a value is where the two ways part.  In a chain it is passed over, but laid
over an entry with a value it hides it.  The variables of a roll, those of the settings and
those of the command line, are tables of integers and so have values throughout; the program
lays the ones over the others, and it might as well ask them in turn.
-/

import DiceFormula.Proofs.NestedChains
import DiceFormula.Proofs.Overriding

namespace DiceFormula

namespace Layer

/-- The entries of all layers in one, those of a layer over those of the layers behind it. -/
def merge (layers : List Layer) : Layer :=
  layers.foldr (fun layer merged => merged.overlay layer) .empty

/-- Every name that is present has a value. -/
def Valued (layer : Layer) : Prop :=
  ∀ name, layer.get? name ≠ some none

theorem merge_cons (layer : Layer) (layers : List Layer) :
    merge (layer :: layers) = (merge layers).overlay layer :=
  rfl

theorem get?_ofTable (table : Table Int) (name : String) :
    (ofTable table).get? name = (table.get? name).map some :=
  Table.get?_map some table name

@[simp]
theorem resolve_ofTable (table : Table Int) (name : String) :
    (ofTable table).resolve name = table.get? name := by
  rw [resolve, get?_ofTable]
  cases table.get? name <;> rfl

theorem valued_ofTable (table : Table Int) : (ofTable table).Valued := by
  intro name
  rw [get?_ofTable]
  cases table.get? name <;> simp

/-- A layer all of whose names have values goes before what it is laid over. -/
theorem resolve_overlay {upper : Layer} (valued : upper.Valued) (base : Layer) (name : String) :
    Layer.resolve (base.overlay upper) name = (upper.resolve name).or (base.resolve name) := by
  rw [resolve, resolve, resolve, Table.get?_overlay]
  cases present : upper.get? name with
  | none => rfl
  | some value? =>
      cases value? with
      | none => exact absurd present (valued name)
      | some value => rfl

/-- Merged layers have the values that the layers have in turn. -/
theorem resolve_merge {layers : List Layer} (valued : ∀ layer ∈ layers, layer.Valued)
    (name : String) : (merge layers).resolve name = layers.findSome? (Layer.resolve · name) := by
  induction layers with
  | nil => rfl
  | cons layer rest ih =>
      obtain ⟨here, later⟩ := List.forall_mem_cons.1 valued
      rw [merge_cons, resolve_overlay here, ih later, List.findSome?_cons]
      cases layer.resolve name <;> rfl

end Layer

theorem Variables.resolve_ofLayers (layers : List Layer) (name : String) :
    (ofLayers layers).resolve name = layers.findSome? (Layer.resolve · name) := by
  rw [resolve_eq_findSome?, leaves_ofLayers]

namespace Program

open Variables

/-- The tables that a roll takes its variables from, each as a layer: those of the command
line come first. -/
def rollLayers (settings : Settings) (assigned : Table Int) : List Layer :=
  [.ofTable assigned, .ofTable settings.values]

theorem rollLayers_valued (settings : Settings) (assigned : Table Int) :
    ∀ layer ∈ rollLayers settings assigned, layer.Valued := by
  intro layer member
  rcases List.mem_pair.1 member with rfl | rfl
  · exact Layer.valued_ofTable assigned
  · exact Layer.valued_ofTable settings.values

/-- The look-up of a roll asks its layers as one. -/
theorem rollLookup_eq_merge (settings : Settings) (assigned : Table Int) :
    rollLookup settings assigned = (Layer.merge (rollLayers settings assigned)).resolve := by
  funext name
  rw [rollLookup_eq, Layer.resolve_merge (rollLayers_valued settings assigned)]
  simp only [rollLayers, firstSaid, List.findSome?_cons, List.findSome?_nil,
    Layer.resolve_ofTable, id]

/-- To ask the layers of a roll in turn comes to the same. -/
theorem rollLookup_eq_chain (settings : Settings) (assigned : Table Int) :
    rollLookup settings assigned = (ofLayers (rollLayers settings assigned)).resolve := by
  funext name
  rw [rollLookup_eq_merge, resolve_ofLayers,
    Layer.resolve_merge (rollLayers_valued settings assigned)]

/-- Layers in which every entry has a value may be asked in turn or merged into one: an
evaluation goes the same way.  The variables of a roll are such layers, those of the command
line over those of the settings, so the look-up of a roll and the chain of the two may be
exchanged for each other, and a roll that is carried out is the one with the chain. -/
theorem chain_interchangeable_merge :
    (∀ layers : List Layer, (∀ layer ∈ layers, layer.Valued) →
      Interchangeable (ofLayers layers) (layer (Layer.merge layers))) ∧
    (∀ (settings : Settings) (assigned : Table Int),
      (∀ layer ∈ rollLayers settings assigned, layer.Valued) ∧
      rollLookup settings assigned = (Layer.merge (rollLayers settings assigned)).resolve ∧
      Interchangeable (rollLookup settings assigned)
        (ofLayers (rollLayers settings assigned))) ∧
    ∀ (context : ProgramContext) (source : String) (options : RollOptions) (formula : Formula)
      (assigned : Table Int) (settings : Settings),
      Formula.parse source = .ok formula → Assignment.readAll options.assignments = .ok assigned →
      (Settings.resolve context.surroundings options.settingsFile).1 = .ok settings →
        runRoll context source options =
          rollTimes context.columns formula (ofLayers (rollLayers settings assigned)).resolve
            (options.times.getD settings.times) []
            (SeededSource.start ((options.seed <|> settings.seed).getD context.freshSeed)) := by
  refine ⟨?_, ?_, ?_⟩
  · intro layers valued
    apply interchangeable_of_lookUp (stateless _) (stateless _)
    intro name
    show (ofLayers layers).resolve name = (layer (Layer.merge layers)).resolve name
    rw [resolve_ofLayers, resolve, Layer.resolve_merge valued]
  · intro settings assigned
    refine ⟨rollLayers_valued settings assigned, rollLookup_eq_merge settings assigned, ?_⟩
    apply interchangeable_of_lookUp (fun _ => rfl) (stateless _)
    intro name
    exact congrFun (rollLookup_eq_chain settings assigned) name
  · intro context source options formula assigned settings accepted assignable resolved
    rw [runRoll_eq_rollWith accepted assignable resolved, rollWith, rollLookup_eq_chain]

/-- Names on both layers, one of them with a zero on the upper, and a roll with a variable on
the command line. -/
theorem chain_interchangeable_merge_zero :
    let upper : Layer := Table.empty.set "x" (some 0)
    let lower : Layer := (Table.empty.set "y" (some 2)).set "x" (some 4)
    let context := besideSettings "[variables]\nx = 1\n".toUTF8
    let settings : Settings := ⟨none, 1, ⟨[("x", 1)], by decide⟩, by decide⟩
    let assigned : Table Int := ⟨[("x", 0)], by decide⟩
    (∀ layer ∈ [upper, lower], layer.Valued) ∧
    Interchangeable (ofLayers [upper, lower]) (layer (Layer.merge [upper, lower])) ∧
    ∃ formula, Formula.parse "x + 2d6" = .ok formula ∧
      Assignment.readAll ["x=0"] = .ok assigned ∧
      (Settings.resolve context.surroundings none).1 = .ok settings ∧
      runRoll context "x + 2d6" ⟨["x=0"], some 7, none, none⟩ =
        rollTimes 80 formula (ofLayers (rollLayers settings assigned)).resolve 1 []
          (SeededSource.start 7) := by
  intro upper lower context settings assigned
  have valued : ∀ layer ∈ [upper, lower], layer.Valued := by
    intro layer member
    rcases List.mem_pair.1 member with rfl | rfl
    · exact Layer.valued_ofTable (Table.empty.set "x" 0)
    · exact Layer.valued_ofTable ((Table.empty.set "y" 2).set "x" 4)
  have read : Formula.parse "x + 2d6" =
      .ok ⟨.identifier ⟨['x'], by simp, List.forall_mem_singleton.2 rfl⟩,
        [(.add, .roll 2 6)]⟩ := by
    decide +kernel
  have assignable : Assignment.readAll ["x=0"] = .ok assigned := by decide +kernel
  have resolved : (Settings.resolve context.surroundings none).1 = .ok settings := by
    apply Settings.eq_ok_of_toOption
    decide +kernel
  obtain ⟨layered, -, ran⟩ := chain_interchangeable_merge
  refine ⟨valued, layered _ valued, _, read, assignable, resolved, ?_⟩
  exact ran context "x + 2d6" ⟨["x=0"], some 7, none, none⟩ _ _ _ read assignable resolved

/-- Where an entry has no value it matters whether layers are asked in turn or merged. -/
example :
    let blank : Layer := Table.empty.set "x" none
    let sheet : Layer := Table.empty.set "x" (some 4)
    (ofLayers [blank, sheet]).resolve "x" = some 4 ∧
      (Layer.merge [blank, sheet]).resolve "x" = none := by
  decide

end Program

end DiceFormula
