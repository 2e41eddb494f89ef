/-
# Terms without a tag

A term in JSON does not say of which kind it is.  Each kind has a member that no other kind
declares, it requires its members and allows no others, so at most one kind accepts a value and
the order in which the kinds are tried does not matter.

Formulas keep the shape of the object they are read from.  What is accepted is stated without
a reader: an array of items each of which is a term, and an array of operators with one for
each gap.  The number of operators is only looked at when all items are right, which does not
show in what is accepted.
-/

import DiceFormula.Formula.Json
import DiceFormula.Proofs.Assignments
import DiceFormula.Proofs.FormulaJson
import DiceFormula.Proofs.JsonFields

namespace DiceFormula

open Schema

namespace TermKind

/-- The members of a kind of term. -/
def memberNames : TermKind → List String
  | roll => ["count", "faces"]
  | literal => ["value"]
  | identifier => ["name"]

/-- The member that a kind of term is told by. -/
def mark : TermKind → String
  | roll => "count"
  | literal => "value"
  | identifier => "name"

theorem mem_all (kind : TermKind) : kind ∈ all := by
  cases kind <;> decide

/-- No two kinds of term share the member that one of them is told by. -/
theorem mark_mem_memberNames_iff {kind other : TermKind} :
    kind.mark ∈ other.memberNames ↔ kind = other := by
  cases kind <;> cases other <;> decide

end TermKind

/-- The value is a term: an object with the members of a kind of term and no others, in which
counts and values stand for integers that are not negative and a name is made of name
characters. -/
inductive IsTerm : Json → Term → Prop where
  | roll {members : List (String × Json)} {countJson facesJson : Json} {count faces : Int}
      (countGiven : Json.LastGiven members "count" countJson)
      (facesGiven : Json.LastGiven members "faces" facesJson)
      (noOther : ∀ member ∈ members, member.1 ∈ TermKind.roll.memberNames)
      (isCount : StandsForInteger countJson count) (notNegative : 0 ≤ count)
      (isFaces : StandsForInteger facesJson faces) :
      IsTerm (.object members) (.roll count.toNat faces)
  | literal {members : List (String × Json)} {valueJson : Json} {value : Int}
      (valueGiven : Json.LastGiven members "value" valueJson)
      (noOther : ∀ member ∈ members, member.1 ∈ TermKind.literal.memberNames)
      (isValue : StandsForInteger valueJson value) (notNegative : 0 ≤ value) :
      IsTerm (.object members) (.literal value.toNat)
  | identifier {members : List (String × Json)} {text : String}
      (nameGiven : Json.LastGiven members "name" (.string text))
      (noOther : ∀ member ∈ members, member.1 ∈ TermKind.identifier.memberNames)
      (nonempty : text.toList ≠ []) (allowed : ∀ c ∈ text.toList, isNameChar c = true) :
      IsTerm (.object members) (.identifier ⟨text.toList, nonempty, allowed⟩)

namespace TermKind

section Members

variable {members : List (String × Json)} {term : Term}

/-- A roll is accepted if both its members are and there is no other. -/
theorem readMembers_roll_eq_ok_iff : readMembers members roll = .ok term ↔ ∃ count faces,
    readMember members "count" readNat = .ok count ∧
      readMember members "faces" readInt = .ok faces ∧
      undeclaredFaults members roll.memberNames = [] ∧ .roll count faces = term := by
  rw [readMembers, memberNames]
  cases readMember members "count" readNat with
  | error faults => simp [accept_eq_ok_iff, Validated.value?]
  | ok count =>
      cases readMember members "faces" readInt with
      | error faults => simp [accept_eq_ok_iff, Validated.value?]
      | ok faces => simp [accept_eq_ok_iff, Validated.value?, Validated.faults]

theorem readMembers_literal_eq_ok_iff : readMembers members literal = .ok term ↔ ∃ value,
    readMember members "value" readNat = .ok value ∧
      undeclaredFaults members literal.memberNames = [] ∧ .literal value = term :=
  accept_one_eq_ok_iff

theorem readMembers_identifier_eq_ok_iff : readMembers members identifier = .ok term ↔ ∃ name,
    readMember members "name" readName = .ok name ∧
      undeclaredFaults members identifier.memberNames = [] ∧ .identifier name = term :=
  accept_one_eq_ok_iff

end Members

variable {kind other : TermKind} {json : Json} {term otherTerm : Term}

theorem isTerm_of_read (read : kind.read json = .ok term) :
    IsTerm json term ∧ kind = .of term := by
  cases json with
  | object members =>
      cases kind with
      | roll =>
          obtain ⟨count, faces, readCount, readFaces, noOther, rfl⟩ :=
            readMembers_roll_eq_ok_iff.1 read
          obtain ⟨countJson, countGiven, isCount⟩ := readMember_eq_ok_iff.1 readCount
          obtain ⟨facesJson, facesGiven, isFaces⟩ := readMember_eq_ok_iff.1 readFaces
          exact ⟨.roll countGiven facesGiven (undeclaredFaults_eq_nil_iff.1 noOther)
            (readNat_eq_ok_iff.1 isCount) (Int.natCast_nonneg count)
            (readInt_eq_ok_iff.1 isFaces), rfl⟩
      | literal =>
          obtain ⟨value, readValue, noOther, rfl⟩ := readMembers_literal_eq_ok_iff.1 read
          obtain ⟨valueJson, valueGiven, isValue⟩ := readMember_eq_ok_iff.1 readValue
          exact ⟨.literal valueGiven (undeclaredFaults_eq_nil_iff.1 noOther)
            (readNat_eq_ok_iff.1 isValue) (Int.natCast_nonneg value), rfl⟩
      | identifier =>
          obtain ⟨name, readText, noOther, rfl⟩ := readMembers_identifier_eq_ok_iff.1 read
          obtain ⟨nameJson, nameGiven, isName⟩ := readMember_eq_ok_iff.1 readText
          obtain rfl := readName_eq_ok_iff.1 isName
          have written : name.text.toList = name.chars := String.toList_ofList
          have isIdentifier := IsTerm.identifier nameGiven (undeclaredFaults_eq_nil_iff.1 noOther)
            (written ▸ name.chars_ne_nil) (written ▸ name.chars_allowed)
          simp only [written] at isIdentifier
          exact ⟨isIdentifier, rfl⟩
  | _ => cases read

theorem read_of_isTerm (isTerm : IsTerm json term) : (of term).read json = .ok term := by
  cases isTerm with
  | @roll members countJson facesJson count faces countGiven facesGiven noOther isCount notNegative
      isFaces =>
      rw [← Int.toNat_of_nonneg notNegative] at isCount
      exact readMembers_roll_eq_ok_iff.2 ⟨_, _,
        readMember_eq_ok_iff.2 ⟨_, countGiven, readNat_eq_ok_iff.2 isCount⟩,
        readMember_eq_ok_iff.2 ⟨_, facesGiven, readInt_eq_ok_iff.2 isFaces⟩,
        undeclaredFaults_eq_nil_iff.2 noOther, rfl⟩
  | literal valueGiven noOther isValue notNegative =>
      rw [← Int.toNat_of_nonneg notNegative] at isValue
      exact readMembers_literal_eq_ok_iff.2 ⟨_,
        readMember_eq_ok_iff.2 ⟨_, valueGiven, readNat_eq_ok_iff.2 isValue⟩,
        undeclaredFaults_eq_nil_iff.2 noOther, rfl⟩
  | @identifier members text nameGiven noOther nonempty allowed =>
      have written : text = Name.text ⟨text.toList, nonempty, allowed⟩ := by
        rw [Name.text, String.ofList_toList]
      exact readMembers_identifier_eq_ok_iff.2 ⟨_,
        readMember_eq_ok_iff.2 ⟨_, nameGiven, readName_eq_ok_iff.2 (congrArg Json.string written)⟩,
        undeclaredFaults_eq_nil_iff.2 noOther, rfl⟩

/-- A kind accepts the terms of its kind. -/
theorem read_eq_ok_iff : kind.read json = .ok term ↔ IsTerm json term ∧ kind = .of term := by
  constructor
  · exact isTerm_of_read
  · rintro ⟨isTerm, rfl⟩
    exact read_of_isTerm isTerm

/-- What a kind accepts has the member by which the kind is told, and only members of the
kind. -/
theorem mark_of_read (read : kind.read json = .ok term) : ∃ members, json = .object members ∧
    kind.mark ∈ members.map Prod.fst ∧ ∀ member ∈ members, member.1 ∈ kind.memberNames := by
  obtain ⟨isTerm, rfl⟩ := isTerm_of_read read
  cases isTerm with
  | @roll members _ _ _ _ countGiven _ noOther _ _ _ =>
      obtain ⟨before, after, rfl, -⟩ := countGiven
      exact ⟨_, rfl, by simp [of, mark], noOther⟩
  | @literal members _ _ valueGiven noOther _ _ =>
      obtain ⟨before, after, rfl, -⟩ := valueGiven
      exact ⟨_, rfl, by simp [of, mark], noOther⟩
  | @identifier members _ nameGiven noOther _ _ =>
      obtain ⟨before, after, rfl, -⟩ := nameGiven
      exact ⟨_, rfl, by simp [of, mark], noOther⟩

/-- At most one kind accepts a value. -/
theorem eq_of_read (read : kind.read json = .ok term)
    (readOther : other.read json = .ok otherTerm) : kind = other := by
  obtain ⟨members, rfl, marked, -⟩ := mark_of_read read
  obtain ⟨_, same, -, noOther⟩ := mark_of_read readOther
  obtain rfl := Json.object.inj same
  obtain ⟨member, given, named⟩ := List.mem_map.1 marked
  rw [← mark_mem_memberNames_iff, ← named]
  exact noOther member given

/-- A refusal by a kind has a fault: where no member has one, all of them were accepted. -/
theorem explained_read : (kind.read json).Explained := by
  cases json with
  | object members =>
      cases kind with
      | roll =>
          refine explained_accept fun noFaults => ?_
          rw [List.append_eq_nil_iff, List.append_eq_nil_iff] at noFaults
          obtain ⟨count, readCount⟩ := explained_readMember.faults_eq_nil_iff.1 noFaults.1.1
          obtain ⟨faces, readFaces⟩ := explained_readMember.faults_eq_nil_iff.1 noFaults.1.2
          rw [readCount, readFaces]
          exact ⟨.roll count faces, rfl⟩
      | literal => exact explained_accept_one explained_readMember
      | identifier => exact explained_accept_one explained_readMember
  | _ => exact nofun

end TermKind

namespace Schema

/-- Reads a value as a term of the first kind in this order that accepts it. -/
def readTermTrying (order : List TermKind) (json : Json) : Validated Term :=
  match order.findSome? fun kind => (kind.read json).value? with
  | some term => .ok term
  | none => .error (order.flatMap fun kind => ((kind.read json).within (.kind kind)).faults)

section Terms

variable {json : Json} {term : Term} {order : List TermKind}

theorem readTermTrying_all : readTermTrying TermKind.all json = readTerm json :=
  rfl

/-- Whichever kinds are tried first, a term is read as one of its own kind. -/
theorem readTermTrying_eq_ok_iff :
    readTermTrying order json = .ok term ↔ IsTerm json term ∧ .of term ∈ order := by
  rw [readTermTrying]
  split
  next found first =>
    obtain ⟨kind, tried, accepted⟩ := List.exists_of_findSome?_eq_some first
    obtain ⟨isTerm, rfl⟩ := TermKind.read_eq_ok_iff.1 (Validated.value?_eq_some_iff.1 accepted)
    constructor
    · intro read
      obtain rfl := Except.ok.inj read
      exact ⟨isTerm, tried⟩
    · rintro ⟨otherTerm, -⟩
      have same := TermKind.read_of_isTerm otherTerm
      rw [← TermKind.eq_of_read (TermKind.read_of_isTerm isTerm) same,
        TermKind.read_of_isTerm isTerm] at same
      exact same
  next none =>
    refine ⟨nofun, fun ⟨isTerm, tried⟩ => ?_⟩
    have refused := List.findSome?_eq_none_iff.1 none _ tried
    rw [TermKind.read_of_isTerm isTerm] at refused
    cases refused

theorem readTerm_eq_ok_iff : readTerm json = .ok term ↔ IsTerm json term := by
  rw [← readTermTrying_all, readTermTrying_eq_ok_iff, and_iff_left (TermKind.mem_all _)]

/-- The order in which the kinds are tried makes no difference to what is accepted, and a
refusal has the same faults, those of a kind where the kind was tried. -/
theorem readTermTrying_perm (reordered : order.Perm TermKind.all) :
    (readTermTrying order json).value? = (readTerm json).value? ∧
      (readTermTrying order json).faults.Perm (readTerm json).faults := by
  have sameValue : (readTermTrying order json).value? = (readTerm json).value? := by
    ext term
    rw [Validated.value?_eq_some_iff, Validated.value?_eq_some_iff, readTermTrying_eq_ok_iff,
      readTerm_eq_ok_iff, and_iff_left (reordered.mem_iff.2 (TermKind.mem_all _))]
  refine ⟨sameValue, ?_⟩
  -- With the same value both accept or both refuse, and a refusal lists the faults by kind.
  rw [← readTermTrying_all] at sameValue ⊢
  rw [readTermTrying, readTermTrying] at sameValue ⊢
  split at sameValue <;> split at sameValue
  · exact .nil
  · cases sameValue
  · cases sameValue
  · exact reordered.flatMap_right _

/-- A refusal of a term has a fault: a kind has one. -/
theorem explained_readTerm : (readTerm json).Explained := by
  rw [readTerm]
  intro silent
  split at silent
  next => cases silent
  next none =>
    have noFaults := List.flatMap_eq_nil_iff.1 (Except.error.inj silent) .roll (TermKind.mem_all .roll)
    obtain ⟨term, accepted⟩ := TermKind.explained_read.within.faults_eq_nil_iff.1 noFaults
    have refused := List.findSome?_eq_none_iff.1 none .roll (TermKind.mem_all .roll)
    rw [Validated.within_eq_ok_iff.1 accepted] at refused
    cases refused

end Terms

/-- The value is an operator: a string that is its symbol. -/
def IsOperator (json : Json) (op : Operator) : Prop :=
  json = .string (String.singleton op.symbol)

theorem readOperator_eq_ok_iff {json : Json} {op : Operator} :
    readOperator json = .ok op ↔ IsOperator json op := by
  constructor
  · intro read
    cases json with
    | string text =>
        rw [readOperator] at read
        split at read
        next symbol single =>
          split at read
          next found form =>
            obtain rfl := Except.ok.inj read
            rw [← Operator.symbol_eq_of_ofSymbol? form] at single
            rw [IsOperator, ← String.ofList_toList (s := text), single]
            rfl
          next => cases read
        next => cases read
    | _ => cases read
  · rintro rfl
    exact readOperator_toJson op

theorem explained_readOperator {json : Json} : (readOperator json).Explained := by
  fun_cases readOperator json <;> exact nofun

section Items

variable {α : Type} {read : Json → Validated α}

/-- Items are accepted together if each of them is, in their order. -/
theorem collect_readItems_eq_ok_iff (explained : ∀ json, (read json).Explained) (place : Nat)
    (items : List Json) (values : List α) : collect (readItems read place items) = .ok values ↔
      List.Forall₂ (fun item value => read item = .ok value) items values := by
  rw [collect, accept_eq_ok_iff, Option.some.injEq]
  induction items generalizing place values with
  | nil => simp [readItems, eq_comm]
  | cons item rest ih =>
      rw [readItems, List.flatMap_cons, List.append_eq_nil_iff,
        (explained item).within.faults_eq_nil_iff, List.forall₂_cons_left_iff]
      constructor
      · rintro ⟨⟨⟨value, accepted⟩, restRight⟩, rfl⟩
        refine ⟨value, _, Validated.within_eq_ok_iff.1 accepted,
          (ih (place + 1) _).1 ⟨restRight, rfl⟩, ?_⟩
        rw [accepted]
        rfl
      · rintro ⟨value, later, accepted, restAccepted, rfl⟩
        obtain ⟨restRight, restValues⟩ := (ih (place + 1) later).2 restAccepted
        have acceptedWithin : (read item).within (.item place) = .ok value :=
          Validated.within_eq_ok_iff.2 accepted
        refine ⟨⟨⟨value, acceptedWithin⟩, restRight⟩, ?_⟩
        rw [acceptedWithin, ← restValues]
        rfl

theorem filterMap_of_collect {items : List (Validated α)} {values : List α}
    (accepted : collect items = .ok values) : items.filterMap Validated.value? = values :=
  Option.some.inj (accept_eq_ok_iff.1 accepted).2

end Items

variable {json : Json}

theorem readTerms_eq_ok_iff {terms : List Term} : readTerms json = .ok terms ↔
    ∃ items, json = .array items ∧ List.Forall₂ IsTerm items terms ∧ terms ≠ [] := by
  have together (items : List Json) : collect (readItems readTerm 0 items) = .ok terms ↔
      List.Forall₂ IsTerm items terms := by
    simp only [collect_readItems_eq_ok_iff fun _ => explained_readTerm, readTerm_eq_ok_iff]
  cases json with
  | array items =>
      simp only [readTerms, accept_eq_ok_iff, Validated.value?_eq_some_iff, together,
        List.append_eq_nil_iff, Json.array.injEq, exists_eq_left']
      constructor
      · rintro ⟨⟨-, enough⟩, areTerms⟩
        refine ⟨areTerms, ?_⟩
        rw [filterMap_of_collect ((together items).2 areTerms)] at enough
        rintro rfl
        cases enough
      · rintro ⟨areTerms, nonempty⟩
        have accepted := (together items).2 areTerms
        rw [filterMap_of_collect accepted, accepted, if_neg (mt List.isEmpty_iff.1 nonempty)]
        exact ⟨⟨rfl, rfl⟩, areTerms⟩
  | _ => simp [readTerms]

theorem readOperators_eq_ok_iff {operators : List Operator} : readOperators json = .ok operators ↔
    ∃ items, json = .array items ∧ List.Forall₂ IsOperator items operators := by
  have together (items : List Json) : collect (readItems readOperator 0 items) = .ok operators ↔
      List.Forall₂ IsOperator items operators := by
    simp only [collect_readItems_eq_ok_iff fun _ => explained_readOperator, readOperator_eq_ok_iff]
  cases json with
  | array items => simp only [readOperators, together, Json.array.injEq, exists_eq_left']
  | _ => simp [readOperators]

section Shape

variable {members : List (String × Json)}

theorem termsOf_eq_ok_iff {terms : List Term} : termsOf members = .ok terms ↔
    ∃ items, Json.LastGiven members "terms" (.array items) ∧ List.Forall₂ IsTerm items terms ∧
      terms ≠ [] := by
  rw [termsOf, Validated.within_eq_ok_iff]
  simp only [← Json.lastMember?_eq_some_iff]
  cases Json.lastMember? members "terms" with
  | none => simp
  | some json => simp [readTerms_eq_ok_iff]

theorem operatorsOf_eq_ok_iff {operators : List Operator} : operatorsOf members = .ok operators ↔
    (∃ items, Json.LastGiven members "operators" (.array items) ∧
        List.Forall₂ IsOperator items operators) ∨
      "operators" ∉ members.map Prod.fst ∧ operators = [] := by
  rw [operatorsOf, Validated.within_eq_ok_iff, ← Json.lastMember?_eq_none_iff]
  simp only [← Json.lastMember?_eq_some_iff]
  cases Json.lastMember? members "operators" with
  | none => simp [eq_comm]
  | some json => simp [readOperators_eq_ok_iff]

end Shape

end Schema

/-- Terms and operators are those of a formula if they are what it is put together from. -/
theorem Formula.ofTerms?_eq_some_iff {terms : List Term} {operators : List Operator}
    {formula : Formula} : ofTerms? terms operators = some formula ↔
      terms = formula.terms ∧ operators = formula.operators := by
  constructor
  · intro form
    cases terms with
    | nil => cases form
    | cons first rest =>
        obtain ⟨oneFewer, rfl⟩ := Option.ite_none_right_eq_some.1 form |>.imp_right Option.some.inj
        simp [Formula.terms, Formula.operators, List.map_fst_zip, List.map_snd_zip, oneFewer]
  · rintro ⟨rfl, rfl⟩
    exact formula.ofTerms?_terms

/-- Terms and one operator fewer make up a formula. -/
theorem Formula.exists_of_parts {terms : List Term} {operators : List Operator}
    (oneFewer : operators.length + 1 = terms.length) :
    ∃ formula : Formula, terms = formula.terms ∧ operators = formula.operators := by
  cases terms with
  | nil => cases oneFewer
  | cons first rest =>
      refine ⟨⟨first, operators.zip rest⟩, ofTerms?_eq_some_iff.1 ?_⟩
      exact if_pos (Nat.succ.inj oneFewer)

namespace Schema

theorem readFormula_eq_ok_iff {json : Json} {formula : Formula} : readFormula json = .ok formula ↔
    ∃ members, json = .object members ∧ termsOf members = .ok formula.terms ∧
      operatorsOf members = .ok formula.operators := by
  cases json with
  | object members =>
      simp only [Json.object.injEq, exists_eq_left']
      constructor
      · intro read
        rw [readFormula] at read
        split at read
        next terms operators readTerms readOperators =>
          split at read
          next found form =>
            obtain rfl := Except.ok.inj read
            obtain ⟨rfl, rfl⟩ := Formula.ofTerms?_eq_some_iff.1 form
            exact ⟨readTerms, readOperators⟩
          next => cases read
        next => cases read
      · rintro ⟨readTerms, readOperators⟩
        rw [readFormula, readTerms, readOperators]
        dsimp only
        rw [formula.ofTerms?_terms]
  | _ => simp [readFormula]

/-- What an object gives as its terms and as its operators, of which there need not be any. -/
structure Gives (members : List (String × Json)) (items operatorItems : List Json) : Prop where
  terms : Json.LastGiven members "terms" (.array items)
  operators : Json.LastGiven members "operators" (.array operatorItems) ∨
    "operators" ∉ members.map Prod.fst ∧ operatorItems = []

theorem ofText_readFormula_eq_ok_iff {json? : Option Json} {formula : Formula} :
    ofText readFormula json? = .ok formula ↔ ∃ members items operatorItems,
      json? = some (.object members) ∧ Gives members items operatorItems ∧
        List.Forall₂ IsTerm items formula.terms ∧
        List.Forall₂ IsOperator operatorItems formula.operators := by
  have someTerm : formula.terms ≠ [] := List.cons_ne_nil _ _
  cases json? with
  | none => simp [ofText]
  | some json =>
      rw [ofText, readFormula_eq_ok_iff]
      simp only [termsOf_eq_ok_iff, operatorsOf_eq_ok_iff, Option.some.injEq]
      constructor
      · rintro ⟨members, rfl, ⟨items, termsGiven, areTerms, -⟩, given | ⟨absent, none⟩⟩
        · obtain ⟨operatorItems, operatorsGiven, areOperators⟩ := given
          exact ⟨members, items, operatorItems, rfl, ⟨termsGiven, .inl operatorsGiven⟩, areTerms,
            areOperators⟩
        · exact ⟨members, items, [], rfl, ⟨termsGiven, .inr ⟨absent, rfl⟩⟩, areTerms, none ▸ .nil⟩
      · rintro ⟨members, items, operatorItems, rfl, gives, areTerms, areOperators⟩
        refine ⟨members, rfl, ⟨items, gives.terms, areTerms, someTerm⟩, ?_⟩
        rcases gives.operators with operatorsGiven | ⟨absent, rfl⟩
        · exact .inl ⟨operatorItems, operatorsGiven, areOperators⟩
        · exact .inr ⟨absent, List.forall₂_nil_left_iff.1 areOperators⟩

/-- An operator is one of the four strings that operators are written as. -/
theorem exists_isOperator_iff {json : Json} :
    (∃ op, IsOperator json op) ↔ ∃ symbol ∈ ["+", "-", "*", "/"], json = .string symbol := by
  constructor
  · rintro ⟨op, rfl⟩
    refine ⟨String.singleton op.symbol, ?_, rfl⟩
    cases op <;> decide
  · rintro ⟨symbol, member, rfl⟩
    simp only [List.mem_cons, List.not_mem_nil, or_false] at member
    rcases member with rfl | rfl | rfl | rfl
    · exact ⟨.add, rfl⟩
    · exact ⟨.sub, rfl⟩
    · exact ⟨.mul, rfl⟩
    · exact ⟨.div, rfl⟩

/-- The values that some kind of term accepts are the terms. -/
theorem exists_read_iff {json : Json} :
    (∃ kind term, TermKind.read kind json = .ok term) ↔ ∃ term, IsTerm json term := by
  constructor
  · rintro ⟨kind, term, read⟩
    exact ⟨term, (TermKind.isTerm_of_read read).1⟩
  · rintro ⟨term, isTerm⟩
    exact ⟨.of term, term, TermKind.read_of_isTerm isTerm⟩

/-- Terms need no tag and formulas keep the shape of what they are read from.

At most one kind of term accepts a value, the one of the term that the value is, and the order
in which the kinds are tried makes no difference.  A text is read as a formula with one term for
each item of its terms and one operator for each item of its operators, in their order, and
there is one operator fewer than terms.  It is accepted whenever each item is accepted by some
kind of term, the operators are among the four and there is one for each gap; other members
do not matter. -/
theorem readFormula_untagged :
    (∀ json kind term, TermKind.read kind json = .ok term ↔ IsTerm json term ∧ kind = .of term) ∧
      (∀ json kind other term otherTerm, TermKind.read kind json = .ok term →
        TermKind.read other json = .ok otherTerm → kind = other) ∧
      (∀ json order, order.Perm TermKind.all →
        (readTermTrying order json).value? = (readTerm json).value? ∧
          (readTermTrying order json).faults.Perm (readTerm json).faults) ∧
      (∀ text formula, ofText readFormula (Json.parse? text) = .ok formula ↔
        ∃ members items operatorItems, Json.parse? text = some (.object members) ∧
          Gives members items operatorItems ∧ operatorItems.length + 1 = items.length ∧
          List.Forall₂ IsTerm items formula.terms ∧
          List.Forall₂ IsOperator operatorItems formula.operators) ∧
      (∀ text, (∃ formula, ofText readFormula (Json.parse? text) = .ok formula) ↔
        ∃ members items operatorItems, Json.parse? text = some (.object members) ∧
          Gives members items operatorItems ∧ operatorItems.length + 1 = items.length ∧
          (∀ item ∈ items, ∃ kind term, TermKind.read kind item = .ok term) ∧
          ∀ item ∈ operatorItems, ∃ symbol ∈ ["+", "-", "*", "/"], item = .string symbol) := by
  have oneFewer {formula : Formula} {items operatorItems : List Json}
      (areTerms : List.Forall₂ IsTerm items formula.terms)
      (areOperators : List.Forall₂ IsOperator operatorItems formula.operators) :
      operatorItems.length + 1 = items.length := by
    rw [areTerms.length_eq, areOperators.length_eq, formula.length_terms]
  refine ⟨fun json kind term => TermKind.read_eq_ok_iff,
    fun json kind other term otherTerm => TermKind.eq_of_read,
    fun json order => readTermTrying_perm, fun text formula => ?_, fun text => ?_⟩
  · rw [ofText_readFormula_eq_ok_iff]
    constructor
    · rintro ⟨members, items, operatorItems, parsed, gives, areTerms, areOperators⟩
      exact ⟨members, items, operatorItems, parsed, gives, oneFewer areTerms areOperators,
        areTerms, areOperators⟩
    · rintro ⟨members, items, operatorItems, parsed, gives, -, areTerms, areOperators⟩
      exact ⟨members, items, operatorItems, parsed, gives, areTerms, areOperators⟩
  · simp only [ofText_readFormula_eq_ok_iff, ← exists_isOperator_iff, exists_read_iff,
      ← exists_forall₂_iff]
    constructor
    · rintro ⟨formula, members, items, operatorItems, parsed, gives, areTerms, areOperators⟩
      exact ⟨members, items, operatorItems, parsed, gives, oneFewer areTerms areOperators,
        ⟨_, areTerms⟩, ⟨_, areOperators⟩⟩
    · rintro ⟨members, items, operatorItems, parsed, gives, enough, ⟨terms, areTerms⟩,
        ⟨operators, areOperators⟩⟩
      rw [areTerms.length_eq, areOperators.length_eq] at enough
      obtain ⟨formula, rfl, rfl⟩ := Formula.exists_of_parts enough
      exact ⟨formula, members, items, operatorItems, parsed, gives, areTerms, areOperators⟩

/-- Three spellings of integers, and a member that is written twice. -/
example : readTerm (.object
      [("count", .null), ("faces", .string " +1_0.00 "), ("count", .bool true)]) =
    .ok (.roll 1 10) := by
  rfl

end Schema

end DiceFormula
