/-
# What the members of an object stand for

A member is looked up by its name, and of several members with one name the last one counts.
Where an integer is asked for, a truth value stands for one or zero, a number with a fraction or
an exponent for its value if that is whole, and a string for the integer that it spells, with or
without a point and zeros behind it.

A refusal always comes with a fault, so a part in which no fault was found was accepted.
-/

import DiceFormula.Formula.Schema
import DiceFormula.Proofs.IntegerText
import DiceFormula.Proofs.TermReading
import Mathlib.Algebra.Order.Field.Rat
import Mathlib.Tactic.Ring

namespace DiceFormula

theorem Name.ofChars?_eq_some_iff {chars : List Char} {name : Name} :
    ofChars? chars = some name ↔ name.chars = chars := by
  constructor
  · intro form
    rw [ofChars?] at form
    split_ifs at form
    obtain rfl := Option.some.inj form
    rfl
  · rintro rfl
    exact ofChars?_chars name

/-- A member that no later one with the same name replaces. -/
def Json.LastGiven (members : List (String × Json)) (name : String) (json : Json) : Prop :=
  ∃ before after, members = before ++ (name, json) :: after ∧ name ∉ after.map Prod.fst

namespace Json

variable {members : List (String × Json)} {name : String} {json : Json}

theorem lastMember?_eq_some_iff :
    lastMember? members name = some json ↔ LastGiven members name json := by
  rw [lastMember?, Option.map_eq_some_iff]
  constructor
  · rintro ⟨⟨_, _⟩, found, rfl⟩
    obtain ⟨named, later, earlier, split, others⟩ := List.find?_eq_some_iff_append.1 found
    obtain rfl := of_decide_eq_true named
    refine ⟨earlier.reverse, later.reverse, ?_, fun again => ?_⟩
    · rw [← List.reverse_reverse members, split]
      simp
    · obtain ⟨member, late, same⟩ := List.mem_map.1 again
      have other := others member (List.mem_reverse.1 late)
      simp [same] at other
  · rintro ⟨before, after, rfl, notLater⟩
    refine ⟨(name, json), List.find?_eq_some_iff_append.2 ⟨decide_eq_true rfl, after.reverse,
      before.reverse, by simp, fun member late => ?_⟩, rfl⟩
    have other : member.1 ≠ name := fun same =>
      notLater (same ▸ List.mem_map_of_mem (List.mem_reverse.1 late))
    simp [other]

theorem lastMember?_eq_none_iff :
    lastMember? members name = none ↔ name ∉ members.map Prod.fst := by
  simp only [lastMember?, Option.map_eq_none_iff, List.find?_eq_none, List.mem_reverse,
    decide_eq_true_eq, List.mem_map, not_exists, not_and]

end Json

/-- A number in double precision is an integer if its mantissa times its power of two is. -/
theorem Binary64.toInt?_finite_eq_some_iff {negative : Bool} {mantissa : Nat} {exponent n : Int} :
    toInt? (.finite negative mantissa exponent) = some n ↔
      (n : ℚ) = Text.signedValue negative mantissa * 2 ^ exponent := by
  -- Only one of the two powers counts: the other one is one.
  obtain ⟨unit, unitPower⟩ : ∃ unit, unit = 2 ^ (-exponent).toNat := ⟨_, rfl⟩
  obtain ⟨scale, scalePower⟩ : ∃ scale, scale = 2 ^ exponent.toNat := ⟨_, rfl⟩
  have positive : 0 < unit := unitPower ▸ Nat.two_pow_pos _
  have oneCounts : unit = 1 ∨ scale = 1 := by
    rcases Int.le_total 0 exponent with large | small
    · left
      rw [unitPower, Int.toNat_eq_zero.2 (Int.neg_nonpos_of_nonneg large), pow_zero]
    · right
      rw [scalePower, Int.toNat_eq_zero.2 small, pow_zero]
  have power : (2 : ℚ) ^ exponent = scale / unit := by
    have split : exponent = (exponent.toNat : Int) - (-exponent).toNat := by omega
    rw [split, zpow_sub₀ two_ne_zero, zpow_natCast, zpow_natCast, scalePower, unitPower]
    norm_cast
  have equation : (n : ℚ) = Text.signedValue negative mantissa * 2 ^ exponent ↔
      n * unit = Text.signedValue negative mantissa * scale := by
    have nonzero : (unit : ℚ) ≠ 0 := Nat.cast_ne_zero.2 positive.ne'
    rw [power, ← mul_div_assoc, eq_div_iff nonzero]
    norm_cast
  have whole : toInt? (.finite negative mantissa exponent) =
      if mantissa % unit = 0 then some (Text.signedValue negative (mantissa / unit * scale))
      else none := by
    rw [unitPower, scalePower]
    rfl
  have signedMul (a b : Nat) :
      Text.signedValue negative (a * b) = Text.signedValue negative a * b := by
    cases negative <;> simp [Text.signedValue]
  rw [whole, equation]
  constructor
  · intro read
    obtain ⟨divides, rfl⟩ := Option.ite_none_right_eq_some.1 read |>.imp_right Option.some.inj
    obtain ⟨quotient, rfl⟩ := Nat.dvd_of_mod_eq_zero divides
    rw [Nat.mul_div_cancel_left _ positive, signedMul, Nat.mul_comm, signedMul]
    ring
  · intro product
    have divides : unit ∣ mantissa := by
      rcases oneCounts with one | one
      · exact one ▸ Nat.one_dvd mantissa
      · have factor : (unit : Int) ∣ Text.signedValue negative mantissa :=
          ⟨n, by rw [Int.mul_comm, product, one, Int.natCast_one, Int.mul_one]⟩
        cases negative with
        | true => exact Int.natCast_dvd_natCast.1 (Int.dvd_neg.1 factor)
        | false => exact Int.natCast_dvd_natCast.1 factor
    obtain ⟨quotient, rfl⟩ := divides
    have cancelled : n = Text.signedValue negative quotient * scale := by
      have nonzero : (unit : Int) ≠ 0 := Int.natCast_ne_zero.2 positive.ne'
      refine mul_right_cancel₀ nonzero (product.trans ?_)
      rw [Nat.mul_comm, signedMul]
      ring
    rw [if_pos (Nat.mul_mod_right unit quotient), Nat.mul_div_cancel_left _ positive, signedMul,
      cancelled]

namespace Schema

open Text

/-- Nothing, or a point and zeros. -/
inductive ZeroTail : List Char → Prop where
  | none : ZeroTail []
  | zeros {zeros : List Char} (nonempty : zeros ≠ []) (all : ∀ c ∈ zeros, c = '0') :
      ZeroTail ('.' :: zeros)

/-- What stands for an integer where one is asked for. -/
inductive StandsForInteger : Json → Int → Prop where
  | integer (n : Int) : StandsForInteger (.integer n) n
  | bool (value : Bool) : StandsForInteger (.bool value) (if value then 1 else 0)
  | whole {negative : Bool} {mantissa : Nat} {exponent n : Int}
      (value : (n : ℚ) = signedValue negative mantissa * 2 ^ exponent) :
      StandsForInteger (.decimal (.finite negative mantissa exponent)) n
  | spelled {text : String} {n : Int} (spells : SpellsWith asciiDigit? ZeroTail text.toList n) :
      StandsForInteger (.string text) n

section ZeroTails

/-- Read backwards, a fraction of zeros stands in front of its point. -/
theorem dropZeroFraction_point {text zeros whole : List Char}
    (backwards : text.reverse = zeros ++ '.' :: whole) (all : ∀ c ∈ zeros, c = '0')
    (nonempty : zeros ≠ []) : dropZeroFraction text = whole.reverse := by
  have zero : ∀ c ∈ zeros, decide (c = '0') = true := fun c member => decide_eq_true (all c member)
  have ends : RunEnds (· = '0') ('.' :: whole) := runEnds_cons.2 (by decide)
  rw [dropZeroFraction, backwards, takeWhile_run zero ends, dropWhile_run zero ends]
  exact if_neg (mt List.isEmpty_iff.1 nonempty)

theorem exists_zeroTail (text : List Char) :
    ∃ tail, ZeroTail tail ∧ text = dropZeroFraction text ++ tail := by
  obtain ⟨zeros, rest, backwards, zero, ends⟩ := exists_maximal_run (· = '0') text.reverse
  have all : ∀ c ∈ zeros, c = '0' := fun c member => of_decide_eq_true (zero c member)
  rw [dropZeroFraction, backwards, takeWhile_run zero ends, dropWhile_run zero ends]
  split
  next whole =>
    split_ifs with noZeros
    · exact ⟨[], .none, (List.append_nil text).symm⟩
    · refine ⟨'.' :: zeros.reverse, .zeros ?_ fun c member => ?_, ?_⟩
      · rwa [Ne, List.reverse_eq_nil_iff, ← List.isEmpty_iff]
      · exact all c (List.mem_reverse.1 member)
      · rw [← List.reverse_reverse text, backwards]
        simp
  next => exact ⟨[], .none, (List.append_nil text).symm⟩

theorem dropZeroFraction_append {body tail : List Char} (noPoint : '.' ∉ body)
    (tailed : ZeroTail tail) : dropZeroFraction (body ++ tail) = body := by
  cases tailed with
  | none =>
      rw [List.append_nil, dropZeroFraction]
      split
      next whole found =>
        have point : '.' ∈ body.reverse.dropWhile (· = '0') := found ▸ List.mem_cons_self
        exact absurd (List.mem_reverse.1 (List.dropWhile_subset _ point)) noPoint
      next => rfl
  | @zeros zeros nonempty all =>
      have backwards : (body ++ '.' :: zeros).reverse = zeros.reverse ++ '.' :: body.reverse := by
        simp
      have allReversed : ∀ c ∈ zeros.reverse, c = '0' := fun c member =>
        all c (List.mem_reverse.1 member)
      rw [dropZeroFraction_point backwards allReversed (mt List.reverse_eq_nil_iff.1 nonempty),
        List.reverse_reverse]

theorem ZeroTail.runEnds_reverse {tail : List Char} (tailed : ZeroTail tail) :
    RunEnds isSpace tail.reverse := by
  cases tailed with
  | none => exact runEnds_nil
  | @zeros zeros nonempty all =>
      have last : zeros.getLast nonempty = '0' := all _ (List.getLast_mem nonempty)
      rw [← List.dropLast_concat_getLast nonempty, last, List.reverse_cons, List.reverse_append]
      exact runEnds_cons.2 (by decide)

end ZeroTails

theorem distinct_asciiDigit? : Distinct asciiDigit? where
  space := by
    intro c space
    rw [asciiDigit?, if_neg]
    intro digit
    have decimal := decimalDigit?_of_isDigit digit
    rw [distinct_decimalDigit?.space c space] at decimal
    cases decimal
  plus := by decide
  minus := by decide
  underscore := by decide

/-- There is no point between digits. -/
theorem point_notMem_of_grouped {body : List Char} {digits : List Nat}
    (grouped : Grouped asciiDigit? body digits) : '.' ∉ body := by
  have noDigit {digit : Nat} : asciiDigit? '.' ≠ some digit := nofun
  induction grouped with
  | last isDigit =>
      rw [List.mem_singleton]
      rintro rfl
      exact noDigit isDigit
  | next isDigit later ih =>
      rw [List.mem_cons, not_or]
      refine ⟨?_, ih⟩
      rintro rfl
      exact noDigit isDigit
  | underscore isDigit later ih =>
      rw [List.mem_cons, List.mem_cons, not_or, not_or]
      refine ⟨?_, by decide, ih⟩
      rintro rfl
      exact noDigit isDigit

variable {json : Json} {n : Int}

theorem readIntText_eq_ok_iff {chars : List Char} :
    readIntText chars = .ok n ↔ SpellsWith asciiDigit? ZeroTail chars n := by
  rw [distinct_asciiDigit?.spellsWith_iff fun _ tailed => tailed.runEnds_reverse, readIntText]
  constructor
  · intro read
    obtain ⟨tail, tailed, unsigned⟩ := exists_zeroTail (splitSign (trim isSpace chars)).2
    dsimp only at read
    split at read
    next => cases read
    next digits readDigits =>
      have grouped := (groupedDigits?_eq_some_iff distinct_asciiDigit?.underscore).1 readDigits
      split_ifs at read with many
      exact ⟨_, tail, digits, unsigned, grouped, Nat.le_of_not_lt many, tailed,
        (Except.ok.inj read).symm⟩
  · rintro ⟨body, tail, digits, unsigned, grouped, few, tailed, rfl⟩
    have readDigits := (groupedDigits?_eq_some_iff distinct_asciiDigit?.underscore).2 grouped
    have dropped := dropZeroFraction_append (point_notMem_of_grouped grouped) tailed
    dsimp only
    rw [unsigned, dropped, readDigits]
    exact if_neg (Nat.not_lt.2 few)

theorem readInt_eq_ok_iff : readInt json = .ok n ↔ StandsForInteger json n := by
  constructor
  · intro read
    cases json with
    | integer value =>
        obtain rfl := Except.ok.inj read
        exact .integer value
    | bool value =>
        obtain rfl := Except.ok.inj read
        exact .bool value
    | decimal value =>
        cases value with
        | finite negative mantissa exponent =>
            simp only [readInt, Binary64.isFinite, if_true] at read
            split at read
            next whole =>
              obtain rfl := Except.ok.inj read
              exact .whole (Binary64.toInt?_finite_eq_some_iff.1 whole)
            next => cases read
        | infinite negative => cases read
        | nan => cases read
    | string text => exact .spelled (readIntText_eq_ok_iff.1 read)
    | null => cases read
    | array items => cases read
    | object members => cases read
  · rintro (_ | _ | value | spells)
    · rfl
    · rfl
    · rw [readInt, Binary64.toInt?_finite_eq_some_iff.2 value]
      rfl
    · exact readIntText_eq_ok_iff.2 spells

theorem readNat_eq_ok_iff {count : Nat} :
    readNat json = .ok count ↔ StandsForInteger json count := by
  rw [← readInt_eq_ok_iff, readNat]
  constructor
  · intro read
    split at read
    next => cases read
    next n readValue =>
      split_ifs at read with negative
      obtain rfl := Except.ok.inj read
      rw [readValue, Int.toNat_of_nonneg (Int.not_lt.1 negative)]
  · intro read
    rw [read]
    exact if_neg (Int.not_lt.2 (Int.natCast_nonneg count))

theorem readName_eq_ok_iff {name : Name} : readName json = .ok name ↔ json = .string name.text := by
  constructor
  · intro read
    cases json with
    | string text =>
        rw [readName] at read
        split at read
        next found form =>
          obtain rfl := Except.ok.inj read
          rw [Name.text, Name.ofChars?_eq_some_iff.1 form, String.ofList_toList]
        next => cases read
    | _ => cases read
  · rintro rfl
    rw [readName, Name.text, String.toList_ofList, Name.ofChars?_chars]

end Schema

namespace Validated

variable {α : Type} {outcome : Validated α} {value : α} {step : PathStep}

/-- A refusal has a fault. -/
def Explained (outcome : Validated α) : Prop :=
  outcome ≠ .error []

theorem Explained.faults_eq_nil_iff (explained : outcome.Explained) :
    outcome.faults = [] ↔ ∃ value, outcome = .ok value := by
  cases outcome with
  | ok value => exact ⟨fun _ => ⟨value, rfl⟩, fun _ => rfl⟩
  | error faults =>
      constructor
      · rintro rfl
        exact absurd rfl explained
      · rintro ⟨value, accepted⟩
        cases accepted

@[simp]
theorem value?_eq_some_iff : outcome.value? = some value ↔ outcome = .ok value := by
  cases outcome <;> simp [value?]

@[simp]
theorem within_eq_ok_iff : outcome.within step = .ok value ↔ outcome = .ok value := by
  cases outcome <;> simp [within]

theorem Explained.within (explained : outcome.Explained) : (outcome.within step).Explained := by
  cases outcome with
  | ok value => exact nofun
  | error faults =>
      intro silent
      exact explained (congrArg _ (List.map_eq_nil_iff.1 (Except.error.inj silent)))

theorem explained_ofCause (outcome : Except SchemaCause α) : (ofCause outcome).Explained := by
  cases outcome <;> exact nofun

theorem ofCause_eq_ok_iff {outcome : Except SchemaCause α} :
    ofCause outcome = .ok value ↔ outcome = .ok value := by
  cases outcome <;> simp [ofCause]

end Validated

namespace Schema

section Members

variable {α : Type} {members : List (String × Json)} {name : String}
  {read : Json → Except SchemaCause α} {value : α}

theorem accept_eq_ok_iff {faults : List SchemaFault} {value? : Option α} :
    accept faults value? = .ok value ↔ faults = [] ∧ value? = some value := by
  fun_cases accept faults value? <;> simp_all

/-- What is built from one part is accepted if the part is and nothing else is wrong. -/
theorem accept_one_eq_ok_iff {β : Type} {part : Validated α} {others : List SchemaFault}
    {build : α → β} {result : β} :
    accept (part.faults ++ others) (do pure (build (← part.value?))) = .ok result ↔
      ∃ value, part = .ok value ∧ others = [] ∧ build value = result := by
  cases part with
  | error faults => simp [accept_eq_ok_iff, Validated.value?]
  | ok value => simp [accept_eq_ok_iff, Validated.value?, Validated.faults]

/-- A reading with no fault that comes with a value is explained. -/
theorem explained_accept {faults : List SchemaFault} {value? : Option α}
    (complete : faults = [] → ∃ value, value? = some value) :
    (accept faults value?).Explained := by
  fun_cases accept faults value? with
  | case1 value => exact nofun
  | case2 faults value? incomplete =>
      rintro silent
      obtain rfl := Except.error.inj silent
      obtain ⟨value, rfl⟩ := complete rfl
      exact incomplete value rfl rfl

theorem explained_accept_one {β : Type} {part : Validated α} {others : List SchemaFault}
    {build : α → β} (explained : part.Explained) :
    (accept (part.faults ++ others) (do pure (build (← part.value?)))).Explained := by
  refine explained_accept fun noFaults => ?_
  rw [List.append_eq_nil_iff] at noFaults
  obtain ⟨value, accepted⟩ := explained.faults_eq_nil_iff.1 noFaults.1
  rw [accepted]
  exact ⟨build value, rfl⟩

theorem readMember_eq_ok_iff : readMember members name read = .ok value ↔
    ∃ json, Json.LastGiven members name json ∧ read json = .ok value := by
  simp only [readMember, Validated.within_eq_ok_iff, ← Json.lastMember?_eq_some_iff]
  cases Json.lastMember? members name with
  | none => simp
  | some json => simp [Validated.ofCause_eq_ok_iff]

theorem explained_readMember : (readMember members name read).Explained := by
  refine .within ?_
  cases Json.lastMember? members name with
  | none => exact nofun
  | some json => exact Validated.explained_ofCause (read json)

/-- No member goes undeclared if every name is declared. -/
theorem undeclaredFaults_eq_nil_iff {declared : List String} :
    undeclaredFaults members declared = [] ↔ ∀ member ∈ members, member.1 ∈ declared := by
  simp [undeclaredFaults]

end Members

end Schema

end DiceFormula
