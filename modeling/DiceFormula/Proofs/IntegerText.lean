/-
# What spells an integer

An integer that people write is a text in parts: space, perhaps a sign, digits between two of
which one underscore may stand, perhaps a tail that adds nothing to the value, and space
again.  Which characters are digits, and which tails there are, depends on where the text
comes from.  A reader trims and splits the text from its ends; the parts are found that way
because digits begin and end what is left, and a digit is neither space nor a sign.

Integers on a command line may use the digits of any script and have no tail.  The decimal
spelling of an integer is such a text as long as it has no more digits than can be converted.
-/

import DiceFormula.Proofs.DecimalSpelling

namespace DiceFormula.Text

section Trimming

variable {skipped : Char → Bool} {front core back : List Char}

/-- What is trimmed off stands at the two ends. -/
theorem exists_trim (skipped : Char → Bool) (chars : List Char) :
    ∃ front back, chars = front ++ (trim skipped chars ++ back) ∧
      (∀ c ∈ front, skipped c = true) ∧ ∀ c ∈ back, skipped c = true := by
  obtain ⟨front, rest, rfl, frontSkipped, restEnds⟩ := exists_maximal_run skipped chars
  obtain ⟨back, core, reversed, backSkipped, coreEnds⟩ := exists_maximal_run skipped rest.reverse
  refine ⟨front, back.reverse, ?_, frontSkipped, fun c member =>
    backSkipped c (List.mem_reverse.1 member)⟩
  rw [trim, dropWhile_run frontSkipped restEnds, reversed, dropWhile_run backSkipped coreEnds,
    ← List.reverse_append, ← reversed, List.reverse_reverse]

/-- Nothing more is trimmed off than what surrounds a text that begins and ends with other
characters. -/
theorem trim_surrounded (frontSkipped : ∀ c ∈ front, skipped c = true)
    (backSkipped : ∀ c ∈ back, skipped c = true) (nonempty : core ≠ [])
    (first : RunEnds skipped core) (last : RunEnds skipped core.reverse) :
    trim skipped (front ++ (core ++ back)) = core := by
  have reverseSkipped : ∀ c ∈ back.reverse, skipped c = true := fun c member =>
    backSkipped c (List.mem_reverse.1 member)
  rw [trim, dropWhile_run frontSkipped (first.append nonempty back), List.reverse_append,
    dropWhile_run reverseSkipped last, List.reverse_reverse]

end Trimming

/-- How a sign is written, and whether it is a minus. -/
inductive Sign : List Char → Bool → Prop where
  | none : Sign [] false
  | plus : Sign ['+'] false
  | minus : Sign ['-'] true

theorem exists_sign (chars : List Char) :
    ∃ sign, Sign sign (splitSign chars).1 ∧ chars = sign ++ (splitSign chars).2 := by
  rw [splitSign.eq_def]
  split
  · exact ⟨['-'], .minus, rfl⟩
  · exact ⟨['+'], .plus, rfl⟩
  · exact ⟨[], .none, rfl⟩

theorem Sign.splitSign_append {sign body : List Char} {negative : Bool}
    (signed : Sign sign negative) (unsigned : ∀ c ∈ body.head?, c ≠ '-' ∧ c ≠ '+') :
    splitSign (sign ++ body) = (negative, body) := by
  cases signed with
  | plus => rfl
  | minus => rfl
  | none =>
      rw [List.nil_append, splitSign.eq_def]
      split
      · exact absurd rfl (unsigned '-' rfl).1
      · exact absurd rfl (unsigned '+' rfl).2
      · rfl

section Grouping

variable {digit? : Char → Option Nat} {chars : List Char} {digits : List Nat}

/-- A run of digits with these values, in which one underscore may stand between two digits. -/
inductive Grouped (digit? : Char → Option Nat) : List Char → List Nat → Prop where
  | last {c : Char} {digit : Nat} (isDigit : digit? c = some digit) : Grouped digit? [c] [digit]
  | next {c : Char} {digit : Nat} {chars : List Char} {digits : List Nat}
      (isDigit : digit? c = some digit) (later : Grouped digit? chars digits) :
      Grouped digit? (c :: chars) (digit :: digits)
  | underscore {c : Char} {digit : Nat} {chars : List Char} {digits : List Nat}
      (isDigit : digit? c = some digit) (later : Grouped digit? chars digits) :
      Grouped digit? (c :: '_' :: chars) (digit :: digits)

theorem Grouped.exists_first (grouped : Grouped digit? chars digits) :
    ∃ c rest digit, chars = c :: rest ∧ digit? c = some digit := by
  cases grouped with
  | last isDigit => exact ⟨_, _, _, rfl, isDigit⟩
  | next isDigit later => exact ⟨_, _, _, rfl, isDigit⟩
  | underscore isDigit later => exact ⟨_, _, _, rfl, isDigit⟩

theorem Grouped.exists_last (grouped : Grouped digit? chars digits) :
    ∃ before c digit, chars = before ++ [c] ∧ digit? c = some digit := by
  induction grouped with
  | last isDigit => exact ⟨[], _, _, rfl, isDigit⟩
  | @next first _ _ _ _ _ ih =>
      obtain ⟨before, c, digit, rfl, isDigit⟩ := ih
      exact ⟨first :: before, c, digit, rfl, isDigit⟩
  | @underscore first _ _ _ _ _ ih =>
      obtain ⟨before, c, digit, rfl, isDigit⟩ := ih
      exact ⟨first :: '_' :: before, c, digit, rfl, isDigit⟩

theorem Grouped.ne_nil (grouped : Grouped digit? chars digits) : chars ≠ [] := by
  obtain ⟨c, rest, digit, rfl, -⟩ := grouped.exists_first
  exact List.cons_ne_nil c rest

/-- Digits without underscores are a run of digits. -/
theorem grouped_of_forall {value : Char → Nat} (all : ∀ c ∈ chars, digit? c = some (value c))
    (nonempty : chars ≠ []) : Grouped digit? chars (chars.map value) := by
  induction chars with
  | nil => exact absurd rfl nonempty
  | cons c rest ih =>
      obtain ⟨isDigit, allRest⟩ := List.forall_mem_cons.1 all
      cases rest with
      | nil => exact .last isDigit
      | cons d more => exact .next isDigit (ih allRest (List.cons_ne_nil d more))

theorem groupedDigits?_eq_some_iff (notDigit : digit? '_' = none) :
    groupedDigits? digit? chars = some digits ↔ Grouped digit? chars digits := by
  constructor
  · intro read
    fun_induction groupedDigits? digit? chars generalizing digits with
    | case1 => cases read
    | case2 c =>
        obtain ⟨digit, isDigit, rfl⟩ := Option.map_eq_some_iff.1 read
        exact .last isDigit
    | case3 c rest ih =>
        obtain ⟨digit, isDigit, digits, readRest, rfl⟩ : ∃ digit, digit? c = some digit ∧
            ∃ later, groupedDigits? digit? rest = some later ∧ digit :: later = digits := by
          simpa [Option.bind_eq_some_iff] using read
        exact .underscore isDigit (ih readRest)
    | case4 c rest _ _ ih =>
        obtain ⟨digit, isDigit, digits, readRest, rfl⟩ : ∃ digit, digit? c = some digit ∧
            ∃ later, groupedDigits? digit? rest = some later ∧ digit :: later = digits := by
          simpa [Option.bind_eq_some_iff] using read
        exact .next isDigit (ih readRest)
  · intro grouped
    induction grouped with
    | last isDigit => simp [groupedDigits?, isDigit]
    | next isDigit later ih =>
        obtain ⟨c, rest, digit, rfl, first⟩ := later.exists_first
        have noUnderscore : c ≠ '_' := by
          rintro rfl
          rw [notDigit] at first
          cases first
        simp [groupedDigits?, isDigit, ih, noUnderscore]
    | underscore isDigit later ih => simp [groupedDigits?, isDigit, ih]

end Grouping

/-- A text that spells an integer, with digits of its kind and a tail of its kind. -/
inductive SpellsWith (digit? : Char → Option Nat) (isTail : List Char → Prop) :
    List Char → Int → Prop where
  | parts {front sign body tail back : List Char} {negative : Bool} {digits : List Nat}
      (frontSpace : ∀ c ∈ front, isSpace c = true) (signed : Sign sign negative)
      (grouped : Grouped digit? body digits) (few : digits.length ≤ maxDigits)
      (tailed : isTail tail) (backSpace : ∀ c ∈ back, isSpace c = true) :
      SpellsWith digit? isTail (front ++ ((sign ++ (body ++ tail)) ++ back))
        (signedValue negative (decimalValue digits))

/-- Characters that can be digits between space and signs. -/
structure Distinct (digit? : Char → Option Nat) : Prop where
  space : ∀ c, isSpace c = true → digit? c = none
  plus : digit? '+' = none
  minus : digit? '-' = none
  underscore : digit? '_' = none

section Parts

variable {digit? : Char → Option Nat} {sign body tail : List Char} {negative : Bool}
  {digits : List Nat}

/-- A sign and digits begin with no space. -/
theorem Distinct.runEnds_sign (distinct : Distinct digit?) (signed : Sign sign negative)
    (grouped : Grouped digit? body digits) (rest : List Char) :
    RunEnds isSpace (sign ++ (body ++ rest)) := by
  cases signed with
  | plus => exact runEnds_cons.2 (by decide)
  | minus => exact runEnds_cons.2 (by decide)
  | none =>
      obtain ⟨c, later, digit, rfl, isDigit⟩ := grouped.exists_first
      refine runEnds_cons.2 (Bool.eq_false_iff.2 fun space => ?_)
      rw [distinct.space c space] at isDigit
      cases isDigit

/-- Digits and a tail that ends with no space end with no space. -/
theorem Distinct.runEnds_reverse (distinct : Distinct digit?) (grouped : Grouped digit? body digits)
    (tailEnds : RunEnds isSpace tail.reverse) (front : List Char) :
    RunEnds isSpace (front ++ (body ++ tail)).reverse := by
  rw [← List.append_assoc, List.reverse_append]
  by_cases noTail : tail = []
  · obtain ⟨before, c, digit, rfl, isDigit⟩ := grouped.exists_last
    rw [noTail, List.reverse_nil, List.nil_append, ← List.append_assoc, List.reverse_append]
    refine runEnds_cons.2 (Bool.eq_false_iff.2 fun space => ?_)
    rw [distinct.space c space] at isDigit
    cases isDigit
  · exact tailEnds.append (mt List.reverse_eq_nil_iff.1 noTail) _

/-- Digits begin with no sign. -/
theorem Distinct.unsigned (distinct : Distinct digit?) (grouped : Grouped digit? body digits)
    (rest : List Char) : ∀ c ∈ (body ++ rest).head?, c ≠ '-' ∧ c ≠ '+' := by
  obtain ⟨first, later, digit, rfl, isDigit⟩ := grouped.exists_first
  intro c member
  cases Option.mem_some.1 member
  constructor
  · rintro rfl
    rw [distinct.minus] at isDigit
    cases isDigit
  · rintro rfl
    rw [distinct.plus] at isDigit
    cases isDigit

/-- Trimmed and without its sign, a text that spells an integer is digits and a tail. -/
theorem Distinct.spellsWith_iff {isTail : List Char → Prop} {chars : List Char} {n : Int}
    (distinct : Distinct digit?) (tailEnds : ∀ tail, isTail tail → RunEnds isSpace tail.reverse) :
    SpellsWith digit? isTail chars n ↔ ∃ body tail digits,
      (splitSign (trim isSpace chars)).2 = body ++ tail ∧ Grouped digit? body digits ∧
        digits.length ≤ maxDigits ∧ isTail tail ∧
        n = signedValue (splitSign (trim isSpace chars)).1 (decimalValue digits) := by
  constructor
  · intro spells
    cases spells with
    | @parts front sign body tail back negative digits frontSpace signed grouped few tailed
        backSpace =>
      have nonempty : sign ++ (body ++ tail) ≠ [] := by
        simp [grouped.ne_nil]
      have trimmed := trim_surrounded frontSpace backSpace nonempty
        (distinct.runEnds_sign signed grouped tail)
        (distinct.runEnds_reverse grouped (tailEnds tail tailed) sign)
      rw [trimmed, signed.splitSign_append (distinct.unsigned grouped tail)]
      exact ⟨body, tail, digits, rfl, grouped, few, tailed, rfl⟩
  · rintro ⟨body, tail, digits, unsigned, grouped, few, tailed, rfl⟩
    obtain ⟨front, back, whole, frontSpace, backSpace⟩ := exists_trim isSpace chars
    obtain ⟨sign, signed, trimmed⟩ := exists_sign (trim isSpace chars)
    have parts := SpellsWith.parts frontSpace signed grouped few tailed backSpace
    rwa [← unsigned, ← trimmed, ← whole] at parts

end Parts

/-- An integer as people write it, in the digits of any script. -/
def SpellsInteger : List Char → Int → Prop :=
  SpellsWith decimalDigit? (· = [])

theorem isSpace_digit : ∀ first ∈ digitZeros, ∀ offset < 10,
    isSpace (Char.ofNat (first + offset)) = false := by
  decide +kernel

theorem distinct_decimalDigit? : Distinct decimalDigit? where
  space := by
    intro c space
    rw [Option.eq_none_iff_forall_not_mem]
    intro digit isDigit
    obtain ⟨first, found, rfl⟩ := Option.map_eq_some_iff.1 isDigit
    have bounds := List.find?_some found
    simp only [Bool.and_eq_true, decide_eq_true_eq] at bounds
    have noSpace :=
      isSpace_digit first (List.mem_of_find?_eq_some found) (c.toNat - first) (by omega)
    rw [Nat.add_sub_cancel' bounds.1, Char.ofNat_toNat, space] at noSpace
    cases noSpace
  plus := by decide
  minus := by decide
  underscore := by decide

/-- A sign and digits between space. -/
theorem spellsInteger_parts {front sign body back : List Char} {negative : Bool}
    {digits : List Nat} (frontSpace : ∀ c ∈ front, isSpace c = true) (signed : Sign sign negative)
    (grouped : Grouped decimalDigit? body digits) (few : digits.length ≤ maxDigits)
    (backSpace : ∀ c ∈ back, isSpace c = true) :
    SpellsInteger (front ++ ((sign ++ body) ++ back))
      (signedValue negative (decimalValue digits)) := by
  have parts : SpellsInteger (front ++ ((sign ++ (body ++ [])) ++ back)) _ :=
    .parts frontSpace signed grouped few rfl backSpace
  rwa [List.append_nil] at parts

variable {chars : List Char} {n : Int}

theorem readInt?_eq_some_iff : readInt? chars = some n ↔ SpellsInteger chars n := by
  have noTail : ∀ tail, tail = [] → RunEnds isSpace tail.reverse := by
    rintro tail rfl
    exact runEnds_nil
  rw [SpellsInteger, distinct_decimalDigit?.spellsWith_iff noTail]
  constructor
  · intro read
    obtain ⟨digits, readDigits, few, rfl⟩ : ∃ digits,
        groupedDigits? decimalDigit? (splitSign (trim isSpace chars)).2 = some digits ∧
          digits.length ≤ maxDigits ∧
          signedValue (splitSign (trim isSpace chars)).1 (decimalValue digits) = n := by
      simpa [readInt?, Option.bind_eq_some_iff, and_assoc] using read
    have grouped := (groupedDigits?_eq_some_iff distinct_decimalDigit?.underscore).1 readDigits
    exact ⟨_, [], digits, (List.append_nil _).symm, grouped, few, rfl, rfl⟩
  · rintro ⟨body, tail, digits, unsigned, grouped, few, rfl, rfl⟩
    rw [List.append_nil] at unsigned
    have readDigits := (groupedDigits?_eq_some_iff distinct_decimalDigit?.underscore).2 grouped
    simp [readInt?, unsigned, readDigits, few]

/-- An ASCII digit counts as in decimal. -/
theorem decimalDigit?_of_isDigit {c : Char} (digit : c.isDigit = true) :
    decimalDigit? c = some (c.toNat - '0'.toNat) := by
  have digits : ∀ value < 10, decimalDigit? (Char.ofNat ('0'.toNat + value)) = some value := by
    decide
  have nine : '9'.toNat = '0'.toNat + 9 := rfl
  obtain ⟨atLeast, atMost⟩ := Char.isDigit_iff_toNat.1 digit
  have here := digits (c.toNat - '0'.toNat) (by omega)
  rwa [Nat.add_sub_cancel' atLeast, Char.ofNat_toNat] at here

/-- An integer with no more digits than can be converted is read back from its spelling. -/
theorem spellsInteger_intDigits (convertible : Convertible n) : SpellsInteger (intDigits n) n := by
  have written (m : Nat) :
      Grouped decimalDigit? (natDigits m) ((natDigits m).map (·.toNat - '0'.toNat)) :=
    grouped_of_forall (fun _ member => decimalDigit?_of_isDigit (isDigit_of_mem_natDigits member))
      (natDigits_ne_nil m)
  have value (m : Nat) : decimalValue ((natDigits m).map (·.toNat - '0'.toNat)) = m := by
    rw [decimalValue, List.foldl_map]
    exact digitsValue_natDigits m
  have few : ((natDigits n.natAbs).map (·.toNat - '0'.toNat)).length ≤ maxDigits := by
    rw [List.length_map]
    exact convertible
  have nothing : ∀ c ∈ ([] : List Char), isSpace c = true := List.forall_mem_nil _
  cases n with
  | ofNat m =>
      have parts := spellsInteger_parts nothing .none (written m) few nothing
      rwa [value, List.append_nil] at parts
  | negSucc m =>
      have parts := spellsInteger_parts nothing .minus (written (m + 1)) few nothing
      rwa [value, List.append_nil] at parts

end DiceFormula.Text
