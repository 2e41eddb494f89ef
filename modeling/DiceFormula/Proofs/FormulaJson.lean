/-
# Formulas through JSON and back

A formula written as JSON is read back as itself.  Terms carry no tag, so the kind of a term
has to follow from the names of its members: what a term is written as is accepted as a term
of its own kind and of no other.

A formula is written with integers of any size and read back as long as they have no more
digits than can be converted.  The lines that are printed for a formula are the lines of its
indented text.
-/

import DiceFormula.CommandLine.Program
import DiceFormula.Formula.Schema
import DiceFormula.Proofs.JsonRoundTrip
import DiceFormula.Proofs.TermReading

namespace DiceFormula

namespace TermKind

/-- The kind of a term. -/
def of : Term → TermKind
  | .roll .. => roll
  | .literal _ => literal
  | .identifier _ => identifier

end TermKind

theorem Term.readable_toJson {term : Term}
    (convertible : ∀ number ∈ term.numbers, Text.Convertible number) (depth : Nat) :
    Json.Readable (depth + 1) term.toJson := by
  cases term with
  | roll count faces =>
      obtain ⟨countConvertible, others⟩ := List.forall_mem_cons.1 convertible
      have facesConvertible := List.forall_mem_singleton.1 others
      exact .object (List.forall_mem_cons.2 ⟨.integer countConvertible,
        List.forall_mem_singleton.2 (.integer facesConvertible)⟩)
  | literal value =>
      have valueConvertible := List.forall_mem_singleton.1 convertible
      exact .object (List.forall_mem_singleton.2 (.integer valueConvertible))
  | identifier name => exact .object (List.forall_mem_singleton.2 .string)

namespace Schema

theorem readNat_natCast (n : Nat) : readNat (.integer n) = .ok n := by
  rw [readNat, readInt]
  dsimp only
  rw [if_neg (Int.not_lt.2 (Int.natCast_nonneg n)), Int.toNat_natCast]

theorem readName_text (name : Name) : readName (.string name.text) = .ok name := by
  rw [readName, Name.text, String.toList_ofList, Name.ofChars?_chars]

/-- What a term is written as is a term of its own kind and of no other: the members of the
other kinds are missing. -/
theorem value?_read_toJson (kind : TermKind) (term : Term) :
    (kind.read term.toJson).value? = if kind = .of term then some term else none := by
  cases kind <;> cases term <;>
    simp [TermKind.read, TermKind.readMembers, TermKind.of, Term.toJson, readMember,
      Json.lastMember?, readNat_natCast, readName_text, readInt, Validated.ofCause,
      Validated.within, Validated.faults, Validated.value?, undeclaredFaults, accept]

theorem readTerm_toJson (term : Term) : readTerm term.toJson = .ok term := by
  have found : (TermKind.all.findSome? fun kind => (kind.read term.toJson).value?) =
      some term := by
    simp only [value?_read_toJson]
    cases term <;> rfl
  rw [readTerm, found]

theorem readOperator_toJson (op : Operator) : readOperator op.toJson = .ok op := by
  have symbol : (String.singleton op.symbol).toList = [op.symbol] :=
    String.toList_singleton op.symbol
  simp only [readOperator, Operator.toJson, symbol, Operator.ofSymbol?_symbol]

section Items

variable {α : Type} {read : Json → Validated α} {write : α → Json}

theorem readItems_map (back : ∀ item, read (write item) = .ok item) (place : Nat)
    (items : List α) : readItems read place (items.map write) = items.map .ok := by
  induction items generalizing place with
  | nil => rfl
  | cons item items ih =>
      rw [List.map_cons, readItems, back, ih]
      rfl

theorem filterMap_value?_map_ok (items : List α) :
    (items.map Except.ok).filterMap Validated.value? = items := by
  rw [List.filterMap_map]
  exact List.filterMap_some

/-- Items that are all accepted are accepted together. -/
theorem collect_map_ok (items : List α) : collect (items.map .ok) = .ok items := by
  have noFaults : (items.map Except.ok).flatMap (Validated.faults (α := α)) = [] := by
    rw [List.flatMap_map]
    exact List.flatMap_eq_nil_iff.2 fun _ _ => rfl
  rw [collect, noFaults, filterMap_value?_map_ok]
  rfl

end Items

theorem readTerms_toJson {terms : List Term} (nonempty : terms ≠ []) :
    readTerms (.array (terms.map Term.toJson)) = .ok terms := by
  have enough : ¬ terms.isEmpty = true := by rwa [List.isEmpty_iff]
  simp only [readTerms, readItems_map readTerm_toJson, collect_map_ok, filterMap_value?_map_ok,
    if_neg enough]
  rfl

theorem readOperators_toJson (operators : List Operator) :
    readOperators (.array (operators.map Operator.toJson)) = .ok operators := by
  rw [readOperators, readItems_map readOperator_toJson, collect_map_ok]

end Schema

namespace Formula

theorem readFormula_toJson (formula : Formula) :
    Schema.readFormula formula.toJson = .ok formula := by
  have someTerm : formula.terms ≠ [] := List.cons_ne_nil _ _
  simp [Schema.readFormula, toJson, Schema.termsOf, Schema.operatorsOf, Json.lastMember?,
    Schema.readTerms_toJson someTerm, Schema.readOperators_toJson, Validated.within,
    ofTerms?_terms]

/-- Formulas are not nested. -/
theorem readable_toJson {formula : Formula}
    (convertible : ∀ term ∈ formula.terms, ∀ number ∈ term.numbers, Text.Convertible number)
    (depth : Nat) : Json.Readable (depth + 3) formula.toJson := by
  refine .object (List.forall_mem_cons.2 ⟨.array ?_, List.forall_mem_singleton.2 (.array ?_)⟩)
  · refine List.forall_mem_map.2 fun term member => ?_
    exact term.readable_toJson (convertible term member) depth
  · exact List.forall_mem_map.2 fun op _ => .string

/-- The lines that are printed for a formula make up its indented text. -/
theorem intercalate_jsonLines (formula : Formula) :
    String.intercalate "\n" (Program.jsonLines formula) = formula.toJson.indented := by
  have newline : "\n".toList = ['\n'] := rfl
  have lines : (Program.jsonLines formula).map String.toList =
      Text.lines (formula.toJson.chars (some 0)) := by
    simp [Program.jsonLines, Function.comp_def]
  rw [← String.toList_inj, String.toList_intercalate, lines, newline, Text.lines,
    Text.splitOn_eq, List.intercalate_splitOn, Json.indented, String.toList_ofList]

/-- A formula whose integers can be converted is read back from its JSON text, the compact
one and the one that is printed. -/
theorem readFormula_parse? (formula : Formula)
    (convertible : ∀ term ∈ formula.terms, ∀ number ∈ term.numbers, Text.Convertible number) :
    Schema.ofText Schema.readFormula (Json.parse? formula.toJson.compact) = .ok formula ∧
      Schema.ofText Schema.readFormula (Json.parse? formula.toJson.indented) = .ok formula ∧
      String.intercalate "\n" (Program.jsonLines formula) = formula.toJson.indented := by
  have readable : Json.Readable Json.maxDepth formula.toJson := readable_toJson convertible 197
  refine ⟨?_, ?_, formula.intercalate_jsonLines⟩
  · rw [Json.parse?_compact readable]
    exact formula.readFormula_toJson
  · rw [Json.parse?_indented readable]
    exact formula.readFormula_toJson

/-- Names stay names even if they look like dice or like a number, dice without faces stay
dice, and a literal need not fit into a word. -/
theorem readFormula_parse?_lookalikes :
    let dice : Name := ⟨['3', 'd', '6'], List.cons_ne_nil _ _, List.all_eq_true.1 rfl⟩
    let number : Name := ⟨['7'], List.cons_ne_nil _ _, List.all_eq_true.1 rfl⟩
    let formula : Formula := ⟨.identifier dice,
      [(.add, .identifier number), (.mul, .roll 0 (-6)), (.div, .literal 100000000000000000000)]⟩
    (∀ term ∈ formula.terms, ∀ number ∈ term.numbers, Text.Convertible number) ∧
      Schema.ofText Schema.readFormula (Json.parse? formula.toJson.compact) = .ok formula ∧
      Schema.ofText Schema.readFormula (Json.parse? formula.toJson.indented) = .ok formula := by
  intro dice number formula
  have convertible : ∀ term ∈ formula.terms, ∀ number ∈ term.numbers,
      Text.Convertible number := by
    decide +kernel
  obtain ⟨compact, indented, -⟩ := formula.readFormula_parse? convertible
  exact ⟨convertible, compact, indented⟩

end Formula

end DiceFormula
