/-
# Reading back what was written as JSON

A value is read back from the text that it is written as, in both layouts and with any space
behind it.  What cannot be promised this of is left out by `Readable`: numbers with a fraction,
integers with too many digits to be converted, and arrays and objects nested too deep.

A number is the only part of a text that could go on in what stands behind it, so a value is
read back in front of everything that does not go on a number.  The bound on the calls of the
reader is twice the number of characters, which is what the reader starts with.
-/

import DiceFormula.Json.Printer
import DiceFormula.Json.Reader
import DiceFormula.Proofs.DecimalSpelling

namespace DiceFormula

namespace Json

open Text (RunEnds runEnds_cons runEnds_nil)

section Strings

theorem charOfCode?_toNat (c : Char) : charOfCode? c.toNat = some c := by
  have valid : c.toNat.isValidChar := c.valid
  rw [charOfCode?, if_pos valid, Char.ofNat_toNat]

/-- Four digits are taken together. -/
theorem readUnit?_append {digits : List Char} (four : digits.length = 4) (rest : List Char) :
    readUnit? (digits ++ rest) = (hexValue? digits).map (·, rest) := by
  match digits, four with
  | [_, _, _, _], _ => rfl

/-- The code of a control character is spelled with four digits. -/
theorem hexValue?_control : ∀ code < 0x20,
    ((Nat.toDigits 16 code).leftpad 4 '0').length = 4 ∧
      hexValue? ((Nat.toDigits 16 code).leftpad 4 '0') = some code := by
  decide +kernel

/-- A unit below the surrogates is a character by itself. -/
theorem readCodeEscape?_of_readUnit? {text rest : List Char} {unit : Nat}
    (read : readUnit? text = some (unit, rest)) (single : unit < 0xd800) :
    readCodeEscape? text = (charOfCode? unit).map (·, rest) := by
  have noPair : ¬ (0xd800 ≤ unit && unit < 0xdc00) = true := by
    rw [decide_eq_false (Nat.not_le.2 single), Bool.false_and]
    exact Bool.false_ne_true
  rw [readCodeEscape?, read, Option.bind_eq_bind, Option.bind_some]
  dsimp only
  rw [if_neg noPair]
  cases charOfCode? unit with
  | none => exact Option.bind_none _
  | some c => exact Option.bind_some _ _

theorem readCodeEscape?_control {c : Char} (control : c.toNat < 0x20) (rest : List Char) :
    readCodeEscape? ((Nat.toDigits 16 c.toNat).leftpad 4 '0' ++ rest) = some (c, rest) := by
  obtain ⟨four, value⟩ := hexValue?_control c.toNat control
  have unit : readUnit? ((Nat.toDigits 16 c.toNat).leftpad 4 '0' ++ rest) =
      some (c.toNat, rest) := by
    rw [readUnit?_append four, value, Option.map_some]
  rw [readCodeEscape?_of_readUnit? unit (by omega), charOfCode?_toNat, Option.map_some]

theorem readStringBody?_of_readEscape? {spelled rest : List Char} {c : Char}
    (read : readEscape? (spelled ++ rest) = some (c, rest)) (bound : Nat) :
    readStringBody? (bound + 1) ('\\' :: (spelled ++ rest)) =
      (readStringBody? bound rest).map fun (body, after) => (c :: body, after) := by
  rw [readStringBody?, read]
  simp only [bind, Option.bind]
  cases readStringBody? bound rest <;> rfl

/-- A character that needs no escape stands for itself. -/
theorem readStringBody?_cons {c : Char} (noQuote : c ≠ '"') (noBackslash : c ≠ '\\')
    (noControl : ¬ c.toNat < 0x20) (bound : Nat) (rest : List Char) :
    readStringBody? (bound + 1) (c :: rest) =
      (readStringBody? bound rest).map fun (body, after) => (c :: body, after) := by
  rw [readStringBody?.eq_5 bound c rest noQuote noBackslash, if_neg noControl]
  cases readStringBody? bound rest <;> rfl

/-- Every character of a string is read back, whether it stands for itself or is escaped. -/
theorem readStringBody?_escapedChar (bound : Nat) (c : Char) (rest : List Char) :
    readStringBody? (bound + 1) (escapedChar c ++ rest) =
      (readStringBody? bound rest).map fun (body, after) => (c :: body, after) := by
  unfold escapedChar
  split_ifs with quote backslash lineFeed carriageReturn tab backspace formFeed control
  · subst quote
    exact @readStringBody?_of_readEscape? ['"'] rest _ rfl bound
  · subst backslash
    exact @readStringBody?_of_readEscape? ['\\'] rest _ rfl bound
  · subst lineFeed
    exact @readStringBody?_of_readEscape? ['n'] rest _ rfl bound
  · subst carriageReturn
    exact @readStringBody?_of_readEscape? ['r'] rest _ rfl bound
  · subst tab
    exact @readStringBody?_of_readEscape? ['t'] rest _ rfl bound
  · subst backspace
    exact @readStringBody?_of_readEscape? ['b'] rest _ rfl bound
  · subst formFeed
    exact @readStringBody?_of_readEscape? ['f'] rest _ rfl bound
  · exact @readStringBody?_of_readEscape? ('u' :: _) rest _ (readCodeEscape?_control control rest)
      bound
  · exact readStringBody?_cons quote backslash control bound rest

/-- A string is read back up to its closing quote. -/
theorem readStringBody?_chars {text : List Char} {bound : Nat} (enough : text.length < bound)
    (rest : List Char) :
    readStringBody? bound (text.flatMap escapedChar ++ '"' :: rest) = some (text, rest) := by
  induction text generalizing bound with
  | nil =>
      cases bound with
      | zero => cases enough
      | succ bound => rfl
  | cons c text ih =>
      cases bound with
      | zero => cases enough
      | succ bound =>
          rw [List.flatMap_cons, List.append_assoc, readStringBody?_escapedChar,
            ih (Nat.lt_of_succ_lt_succ enough), Option.map_some]

theorem escapedChar_ne_nil (c : Char) : escapedChar c ≠ [] := by
  unfold escapedChar
  split_ifs <;> exact List.cons_ne_nil _ _

/-- No string is written shorter than it is. -/
theorem length_le_length_stringChars (text : String) :
    text.toList.length + 2 ≤ (stringChars text).length := by
  have escaped (chars : List Char) : chars.length ≤ (chars.flatMap escapedChar).length := by
    induction chars with
    | nil => exact Nat.le_refl _
    | cons c chars ih =>
        have nonempty := List.length_pos_iff.2 (escapedChar_ne_nil c)
        rw [List.flatMap_cons, List.length_append, List.length_cons]
        omega
  have body := escaped text.toList
  simp only [stringChars, List.cons_append, List.length_cons, List.length_append,
    List.length_nil]
  omega

end Strings

section Numbers

/-- A number could go on with this character. -/
def goesOnNumber (c : Char) : Bool :=
  c.isDigit || c = '.' || c = 'e' || c = 'E'

theorem readFraction?_of_runEnds {rest : List Char} (ends : RunEnds goesOnNumber rest) :
    readFraction? rest = some ([], rest) := by
  cases rest with
  | nil => rfl
  | cons c after =>
      have point : c ≠ '.' := by
        rintro rfl
        exact absurd (runEnds_cons.1 ends) (by decide)
      rw [readFraction?]
      rintro more same
      exact point (List.cons.inj same).1

theorem readExponent?_of_runEnds {rest : List Char} (ends : RunEnds goesOnNumber rest) :
    readExponent? rest = some (none, rest) := by
  cases rest with
  | nil => rfl
  | cons c after =>
      have mark : ¬ (c = 'e' || c = 'E') = true := by
        intro isMark
        have other := runEnds_cons.1 ends
        simp_all [goesOnNumber]
      rw [readExponent?, if_neg mark]

theorem runEnds_isDigit {rest : List Char} (ends : RunEnds goesOnNumber rest) :
    RunEnds Char.isDigit rest := by
  intro c member
  have other := ends c member
  simp_all [goesOnNumber]

/-- The integer part of a number is all its digits: it begins with a zero only if it is
zero. -/
theorem wholeDigits_eq (n : Nat) {rest : List Char} (ends : RunEnds Char.isDigit rest) :
    (if (Text.natDigits n ++ rest).head? = some '0' then ['0']
      else (Text.natDigits n ++ rest).takeWhile Char.isDigit) = Text.natDigits n := by
  split_ifs with zero
  · have plain := Text.not_leadingZero_natDigits n
    cases written : Text.natDigits n with
    | nil => exact absurd written (Text.natDigits_ne_nil n)
    | cons c more =>
        rw [written] at zero plain
        obtain rfl : c = '0' := Option.some.inj zero
        cases more with
        | nil => rfl
        | cons d more => exact absurd ⟨d, more, rfl⟩ plain
  · exact Text.takeWhile_run (Text.digitRun_natDigits n).isDigit ends

theorem readMagnitude?_natDigits (negative : Bool) {n : Nat}
    (short : (Text.natDigits n).length ≤ Text.maxDigits) {rest : List Char}
    (ends : RunEnds goesOnNumber rest) :
    readMagnitude? negative (Text.natDigits n ++ rest) =
      some (integer (Text.signedValue negative n), rest) := by
  have nonempty : ¬ (Text.natDigits n).isEmpty = true := by
    rw [List.isEmpty_iff]
    exact Text.natDigits_ne_nil n
  have behind : (Text.natDigits n ++ rest).drop (Text.natDigits n).length = rest :=
    List.drop_left
  simp only [readMagnitude?, wholeDigits_eq n (runEnds_isDigit ends), if_neg nonempty, behind,
    readFraction?_of_runEnds ends, readExponent?_of_runEnds ends, bind, Option.bind,
    if_neg (Nat.not_lt.2 short), Text.digitsValue_natDigits]
  rfl

theorem exists_natDigits (n : Nat) :
    ∃ c more, Text.natDigits n = c :: more ∧ c.isDigit = true := by
  cases written : Text.natDigits n with
  | nil => exact absurd written (Text.natDigits_ne_nil n)
  | cons c more =>
      have digit := (Text.digitRun_natDigits n).isDigit c (written ▸ List.mem_cons_self)
      exact ⟨c, more, rfl, digit⟩

/-- An integer begins with a minus sign or with a digit. -/
theorem exists_intDigits (value : Int) :
    ∃ c more, Text.intDigits value = c :: more ∧ (c = '-' ∨ c.isDigit = true) := by
  cases value with
  | ofNat n =>
      obtain ⟨c, more, written, digit⟩ := exists_natDigits n
      exact ⟨c, more, written, .inr digit⟩
  | negSucc n => exact ⟨'-', Text.natDigits (n + 1), rfl, .inl rfl⟩

theorem readNumber?_intDigits {value : Int}
    (convertible : Text.Convertible value) {rest : List Char}
    (ends : RunEnds goesOnNumber rest) :
    readNumber? (Text.intDigits value ++ rest) = some (integer value, rest) := by
  cases value with
  | ofNat n =>
      have noSign : readNumber? (Text.natDigits n ++ rest) =
          readMagnitude? false (Text.natDigits n ++ rest) := by
        obtain ⟨c, more, written, digit⟩ := exists_natDigits n
        rw [written, List.cons_append, readNumber?] <;>
          · rintro after same
            obtain ⟨rfl, -⟩ := List.cons.inj same
            exact absurd digit (by decide)
      exact noSign.trans (readMagnitude?_natDigits false convertible ends)
  | negSucc n =>
      have sign : readNumber? ('-' :: (Text.natDigits (n + 1) ++ rest)) =
          readMagnitude? true (Text.natDigits (n + 1) ++ rest) := by
        obtain ⟨c, more, written, digit⟩ := exists_natDigits (n + 1)
        rw [written, List.cons_append, readNumber?]
        rintro after same
        obtain ⟨rfl, -⟩ := List.cons.inj same
        exact absurd digit (by decide)
      exact sign.trans (readMagnitude?_natDigits true convertible ends)

theorem readScalar?_intDigits {value : Int}
    (convertible : Text.Convertible value) {rest : List Char}
    (ends : RunEnds goesOnNumber rest) :
    readScalar? (Text.intDigits value ++ rest) = some (integer value, rest) := by
  rw [← readNumber?_intDigits convertible ends]
  obtain ⟨c, more, written, first⟩ := exists_intDigits value
  rw [written, List.cons_append, readScalar?] <;>
    · rintro after same
      obtain ⟨rfl, -⟩ := List.cons.inj same
      exact absurd first (by decide)

end Numbers

section Padding

theorem skipPadding_of_runEnds {text : List Char} (ends : RunEnds isPadding text) :
    skipPadding text = text := by
  cases text with
  | nil => rfl
  | cons c rest =>
      have kept : ¬ isPadding c = true := by simp [runEnds_cons.1 ends]
      exact List.dropWhile_cons_of_neg kept

theorem skipPadding_cons (c : Char) (mark : isPadding c = false) (text : List Char) :
    skipPadding (c :: text) = c :: text :=
  skipPadding_of_runEnds (runEnds_cons.2 mark)

/-- A break is left out. -/
theorem skipPadding_lineBreak (level : Option Nat) {text : List Char}
    (ends : RunEnds isPadding text) : skipPadding (lineBreak level ++ text) = text := by
  refine Text.dropWhile_run (fun c member => ?_) ends
  cases level with
  | none => cases member
  | some level =>
      rcases List.mem_cons.1 member with rfl | member
      · rfl
      · rw [List.eq_of_mem_replicate member]
        rfl

theorem goesOnNumber_of_isPadding {c : Char} (padding : isPadding c = true) :
    goesOnNumber c = false := by
  simp only [isPadding, Bool.or_eq_true, decide_eq_true_eq] at padding
  rcases padding with ((rfl | rfl) | rfl) | rfl <;> rfl

/-- The mark between a name and its value may have space behind it. -/
theorem exists_nameSeparator (level : Option Nat) {text : List Char}
    (ends : RunEnds isPadding text) :
    ∃ space, nameSeparator level = ':' :: space ∧ skipPadding (space ++ text) = text := by
  have bare := skipPadding_of_runEnds ends
  cases level with
  | none => exact ⟨[], rfl, bare⟩
  | some level => exact ⟨[' '], rfl, bare⟩

/-- A number is over in front of a break and a mark. -/
theorem runEnds_lineBreak (level : Option Nat) {c : Char} (mark : goesOnNumber c = false)
    (rest : List Char) : RunEnds goesOnNumber (lineBreak level ++ c :: rest) := by
  cases level with
  | none => exact runEnds_cons.2 mark
  | some level => exact runEnds_cons.2 rfl

end Padding

section Values

/-- Values that are read back: there is no number with a fraction, no integer has too many
digits, and arrays and objects are not nested deeper than this. -/
inductive Readable : Nat → Json → Prop
  | null {depth : Nat} : Readable depth null
  | bool {depth : Nat} {value : Bool} : Readable depth (bool value)
  | integer {depth : Nat} {value : Int} (convertible : Text.Convertible value) :
      Readable depth (integer value)
  | string {depth : Nat} {value : String} : Readable depth (string value)
  | array {depth : Nat} {items : List Json} (readable : ∀ item ∈ items, Readable depth item) :
      Readable (depth + 1) (array items)
  | object {depth : Nat} {members : List (String × Json)}
      (readable : ∀ member ∈ members, Readable depth member.2) :
      Readable (depth + 1) (object members)

/-- Within this depth a value is read back from its text in this layout, in front of whatever
does not go on a number. -/
structure ReadBack (level : Option Nat) (depth : Nat) (json : Json) : Prop where
  exists_start : ∃ c more, json.chars level = c :: more ∧ isPadding c = false ∧ c ≠ ']'
  readValue?_eq : ∀ (bound : Nat) (rest : List Char), RunEnds goesOnNumber rest →
    2 * (json.chars level).length ≤ bound →
      readValue? bound depth (json.chars level ++ rest) = some (json, rest)

namespace ReadBack

variable {level inner outer : Option Nat} {depth bound : Nat} {json : Json}

theorem runEnds_isPadding (back : ReadBack level depth json) (rest : List Char) :
    RunEnds isPadding (json.chars level ++ rest) := by
  obtain ⟨c, more, written, noPadding, -⟩ := back.exists_start
  rw [written]
  exact runEnds_cons.2 noPadding

/-- An item is read back, and what stands behind it decides whether there are further items. -/
theorem readItems?_item (back : ReadBack level depth json)
    (enough : 2 * (json.chars level).length ≤ bound) {text : List Char}
    (ends : RunEnds goesOnNumber text) :
    readItems? (bound + 1) depth (json.chars level ++ text) =
      match skipPadding text with
      | ']' :: rest => some ([json], rest)
      | ',' :: rest =>
        (readItems? bound depth (skipPadding rest)).map fun read => (json :: read.1, read.2)
      | _ => none := by
  have value := back.readValue?_eq bound text ends enough
  rw [readItems?]
  exact value ▸ rfl

/-- The items of an array are read back up to its bracket. -/
theorem readItems?_eq {item : Json} {items : List Json}
    (back : ∀ each ∈ item :: items, ReadBack inner depth each)
    (enough : 2 * (item.chars inner).length + 2 * (itemsChars inner items).length < bound)
    (rest : List Char) :
    readItems? bound depth
        (item.chars inner ++ (itemsChars inner items ++ (lineBreak outer ++ ']' :: rest))) =
      some (item :: items, rest) := by
  induction items generalizing item bound with
  | nil =>
      obtain ⟨bound, rfl⟩ := Nat.exists_eq_succ_of_ne_zero (Nat.ne_zero_of_lt enough)
      have first : ReadBack inner depth item := back item List.mem_cons_self
      have closing : skipPadding (lineBreak outer ++ ']' :: rest) = ']' :: rest :=
        skipPadding_lineBreak outer (runEnds_cons.2 rfl)
      rw [itemsChars, List.nil_append, first.readItems?_item (by omega)
        (runEnds_lineBreak outer rfl rest), closing]
      rfl
  | cons next items ih =>
      obtain ⟨bound, rfl⟩ := Nat.exists_eq_succ_of_ne_zero (Nat.ne_zero_of_lt enough)
      obtain ⟨first, others⟩ := List.forall_mem_cons.1 back
      have second : ReadBack inner depth next := others next List.mem_cons_self
      have written : itemsChars inner (next :: items) =
          ',' :: (lineBreak inner ++ (next.chars inner ++ itemsChars inner items)) := by
        simp only [itemsChars, List.cons_append, List.append_assoc]
      have length := congrArg List.length written
      simp only [List.length_cons, List.length_append] at length
      have enoughLater :
          2 * (next.chars inner).length + 2 * (itemsChars inner items).length < bound := by
        omega
      have start (text : List Char) :
          skipPadding (lineBreak inner ++ (next.chars inner ++ text)) = next.chars inner ++ text :=
        skipPadding_lineBreak inner (second.runEnds_isPadding text)
      rw [written, List.cons_append, first.readItems?_item (by omega) (runEnds_cons.2 rfl),
        skipPadding_cons ',' rfl]
      simp only [List.append_assoc, start, ih others enoughLater, Option.map_some]

/-- A name and its value are read back, and what stands behind them decides whether there
are further members. -/
theorem readMembers?_member {name : String} (back : ReadBack level depth json)
    (enough : (stringChars name).length + 2 * (json.chars level).length ≤ bound)
    {text : List Char} (ends : RunEnds goesOnNumber text) :
    readMembers? (bound + 1) depth
        (stringChars name ++ (nameSeparator level ++ (json.chars level ++ text))) =
      match skipPadding text with
      | '}' :: rest => some ([(name, json)], rest)
      | ',' :: rest =>
        (readMembers? bound depth (skipPadding rest)).map fun read =>
          ((name, json) :: read.1, read.2)
      | _ => none := by
  have nameLength := length_le_length_stringChars name
  have short : name.toList.length < bound + 1 := by omega
  have value := back.readValue?_eq bound text ends (by omega)
  obtain ⟨space, separator, start⟩ := exists_nameSeparator level (back.runEnds_isPadding text)
  rw [stringChars, separator]
  simp only [List.cons_append, List.append_assoc, List.nil_append, readMembers?,
    readStringBody?_chars short, skipPadding_cons ':' rfl, start, String.ofList_toList]
  exact value ▸ rfl

/-- The members of an object are read back up to its brace. -/
theorem readMembers?_eq {name : String} {value : Json} {members : List (String × Json)}
    (back : ∀ each ∈ (name, value) :: members, ReadBack inner depth each.2)
    (enough : 2 * (stringChars name).length + 2 * (value.chars inner).length +
      2 * (membersChars inner members).length < bound) (rest : List Char) :
    readMembers? bound depth (stringChars name ++ (nameSeparator inner ++ (value.chars inner ++
        (membersChars inner members ++ (lineBreak outer ++ '}' :: rest))))) =
      some ((name, value) :: members, rest) := by
  induction members generalizing name value bound with
  | nil =>
      obtain ⟨bound, rfl⟩ := Nat.exists_eq_succ_of_ne_zero (Nat.ne_zero_of_lt enough)
      have first : ReadBack inner depth value := back (name, value) List.mem_cons_self
      have closing : skipPadding (lineBreak outer ++ '}' :: rest) = '}' :: rest :=
        skipPadding_lineBreak outer (runEnds_cons.2 rfl)
      rw [membersChars, List.nil_append, first.readMembers?_member (by omega)
        (runEnds_lineBreak outer rfl rest), closing]
      rfl
  | cons next members ih =>
      obtain ⟨bound, rfl⟩ := Nat.exists_eq_succ_of_ne_zero (Nat.ne_zero_of_lt enough)
      obtain ⟨nextName, nextValue⟩ := next
      have first : ReadBack inner depth value := back (name, value) List.mem_cons_self
      have others := (List.forall_mem_cons.1 back).2
      have written : membersChars inner ((nextName, nextValue) :: members) =
          ',' :: (lineBreak inner ++ (stringChars nextName ++ (nameSeparator inner ++
            (nextValue.chars inner ++ membersChars inner members)))) := by
        simp only [membersChars, List.cons_append, List.append_assoc]
      have length := congrArg List.length written
      simp only [List.length_cons, List.length_append] at length
      have enoughLater : 2 * (stringChars nextName).length + 2 * (nextValue.chars inner).length +
          2 * (membersChars inner members).length < bound := by
        omega
      have start (text : List Char) :
          skipPadding (lineBreak inner ++ (stringChars nextName ++ text)) =
            stringChars nextName ++ text :=
        skipPadding_lineBreak inner (runEnds_cons.2 rfl)
      rw [written, List.cons_append, first.readMembers?_member (by omega) (runEnds_cons.2 rfl),
        skipPadding_cons ',' rfl]
      simp only [List.append_assoc, start, ih others enoughLater, Option.map_some]

end ReadBack

/-- A string is read back whatever stands behind it. -/
theorem readBack_string (level : Option Nat) (depth : Nat) (text : String) :
    ReadBack level depth (string text) where
  exists_start := ⟨'"', _, rfl, rfl, by decide⟩
  readValue?_eq bound rest _ enough := by
    rw [chars] at enough ⊢
    have length := length_le_length_stringChars text
    obtain ⟨bound, rfl⟩ : ∃ fewer, bound = fewer + 1 := ⟨bound - 1, by omega⟩
    have short : text.toList.length < bound + 1 := by omega
    rw [stringChars]
    simp only [List.cons_append, List.append_assoc, List.nil_append, readValue?,
      readStringBody?_chars short, Option.map_some, String.ofList_toList]

/-- A scalar is read back if it begins like no other value. -/
theorem readBack_scalar {level : Option Nat} {depth : Nat} {json : Json}
    (start : ∃ c more, json.chars level = c :: more ∧ isPadding c = false ∧
      c ≠ ']' ∧ c ≠ '"' ∧ c ≠ '[' ∧ c ≠ '{')
    (scalar : ∀ rest, RunEnds goesOnNumber rest →
      readScalar? (json.chars level ++ rest) = some (json, rest)) :
    ReadBack level depth json := by
  obtain ⟨c, more, written, noPadding, noBracket, noQuote, noArray, noObject⟩ := start
  refine ⟨⟨c, more, written, noPadding, noBracket⟩, fun bound rest ends enough => ?_⟩
  have length := congrArg List.length written
  rw [List.length_cons] at length
  obtain ⟨bound, rfl⟩ : ∃ fewer, bound = fewer + 1 := ⟨bound - 1, by omega⟩
  rw [← scalar rest ends, written, List.cons_append, readValue?]
  · rintro after same
    exact noQuote (List.cons.inj same).1
  · rintro after same
    exact noArray (List.cons.inj same).1
  · rintro after same
    exact noObject (List.cons.inj same).1

theorem readBack_integer (level : Option Nat) (depth : Nat) {value : Int}
    (convertible : Text.Convertible value) :
    ReadBack level depth (integer value) := by
  refine readBack_scalar ?_ fun rest ends => readScalar?_intDigits convertible ends
  obtain ⟨c, more, written, first⟩ := exists_intDigits value
  have other (d : Char) (mark : ¬ (d = '-' ∨ d.isDigit = true)) : c ≠ d := by
    rintro rfl
    exact mark first
  have noPadding : isPadding c = false := by
    simp only [isPadding, decide_eq_false (other ' ' (by decide)),
      decide_eq_false (other '\t' (by decide)), decide_eq_false (other '\n' (by decide)),
      decide_eq_false (other '\r' (by decide)), Bool.or_false]
  exact ⟨c, more, written, noPadding, other _ (by decide), other _ (by decide),
    other _ (by decide), other _ (by decide)⟩

/-- What follows the bracket of an array is its items, unless it is the closing bracket. -/
theorem readValue?_array {bound depth : Nat} {text : List Char}
    (filled : ∀ rest, skipPadding text ≠ ']' :: rest) :
    readValue? (bound + 1) (depth + 1) ('[' :: text) =
      (readItems? bound depth (skipPadding text)).map fun read => (array read.1, read.2) := by
  rw [readValue?]
  split
  · next rest closed => exact absurd closed (filled rest)
  · rfl

theorem readBack_array {level : Option Nat} {depth : Nat} {items : List Json}
    (back : ∀ item ∈ items, ReadBack (level.map (· + 1)) depth item) :
    ReadBack level (depth + 1) (array items) := by
  generalize deeper : level.map (· + 1) = inner at back
  cases items with
  | nil =>
      refine ⟨⟨'[', _, rfl, rfl, by decide⟩, fun bound rest _ enough => ?_⟩
      cases bound with
      | zero => cases enough
      | succ bound => rfl
  | cons item items =>
      have first := back item List.mem_cons_self
      have written : chars level (array (item :: items)) =
          '[' :: (lineBreak inner ++ (item.chars inner ++
            (itemsChars inner items ++ (lineBreak level ++ [']'])))) := by
        simp only [chars, deeper, List.cons_append, List.append_assoc]
      refine ⟨⟨'[', _, written, rfl, by decide⟩, fun bound rest _ enough => ?_⟩
      have length := congrArg List.length written
      simp only [List.length_cons, List.length_append, List.length_nil] at length
      obtain ⟨bound, rfl⟩ : ∃ fewer, bound = fewer + 1 := ⟨bound - 1, by omega⟩
      have enoughInside :
          2 * (item.chars inner).length + 2 * (itemsChars inner items).length < bound := by
        omega
      have start (text : List Char) :=
        skipPadding_lineBreak inner (first.runEnds_isPadding text)
      have filled (text rest : List Char) : item.chars inner ++ text ≠ ']' :: rest := by
        obtain ⟨c, more, same, -, other⟩ := first.exists_start
        rw [same]
        exact fun closed => other (List.cons.inj closed).1
      rw [written]
      simp only [List.cons_append, List.append_assoc, List.nil_append]
      rw [readValue?_array (by simpa only [start] using filled _), start,
        ReadBack.readItems?_eq back enoughInside, Option.map_some]

theorem readValue?_object {bound depth : Nat} {text : List Char}
    (filled : ∀ rest, skipPadding text ≠ '}' :: rest) :
    readValue? (bound + 1) (depth + 1) ('{' :: text) =
      (readMembers? bound depth (skipPadding text)).map fun read => (object read.1, read.2) := by
  rw [readValue?]
  split
  · next rest closed => exact absurd closed (filled rest)
  · rfl

theorem readBack_object {level : Option Nat} {depth : Nat} {members : List (String × Json)}
    (back : ∀ member ∈ members, ReadBack (level.map (· + 1)) depth member.2) :
    ReadBack level (depth + 1) (object members) := by
  generalize deeper : level.map (· + 1) = inner at back
  cases members with
  | nil =>
      refine ⟨⟨'{', _, rfl, rfl, by decide⟩, fun bound rest _ enough => ?_⟩
      cases bound with
      | zero => cases enough
      | succ bound => rfl
  | cons member members =>
      obtain ⟨name, value⟩ := member
      have written : chars level (object ((name, value) :: members)) =
          '{' :: (lineBreak inner ++ (stringChars name ++ (nameSeparator inner ++
            (value.chars inner ++
              (membersChars inner members ++ (lineBreak level ++ ['}'])))))) := by
        simp only [chars, deeper, List.cons_append, List.append_assoc]
      refine ⟨⟨'{', _, written, rfl, by decide⟩, fun bound rest _ enough => ?_⟩
      have length := congrArg List.length written
      simp only [List.length_cons, List.length_append, List.length_nil] at length
      obtain ⟨bound, rfl⟩ : ∃ fewer, bound = fewer + 1 := ⟨bound - 1, by omega⟩
      have enoughInside : 2 * (stringChars name).length + 2 * (value.chars inner).length +
          2 * (membersChars inner members).length < bound := by
        omega
      have start (text : List Char) :
          skipPadding (lineBreak inner ++ (stringChars name ++ text)) = stringChars name ++ text :=
        skipPadding_lineBreak inner (runEnds_cons.2 rfl)
      have filled (text rest : List Char) : stringChars name ++ text ≠ '}' :: rest :=
        fun closed => absurd (List.cons.inj closed).1 (by decide)
      rw [written]
      simp only [List.cons_append, List.append_assoc, List.nil_append]
      rw [readValue?_object (by simpa only [start] using filled _), start,
        ReadBack.readMembers?_eq back enoughInside, Option.map_some]

/-- Readable values are read back from both layouts. -/
theorem Readable.readBack {depth : Nat} {json : Json} (readable : Readable depth json)
    (level : Option Nat) : ReadBack level depth json := by
  induction readable generalizing level with
  | null => exact readBack_scalar ⟨'n', _, rfl, by decide⟩ fun rest _ => rfl
  | @bool depth value =>
      cases value with
      | false => exact readBack_scalar ⟨'f', _, rfl, by decide⟩ fun rest _ => rfl
      | true => exact readBack_scalar ⟨'t', _, rfl, by decide⟩ fun rest _ => rfl
  | integer convertible => exact readBack_integer level _ convertible
  | string => exact readBack_string level _ _
  | array readable ih => exact readBack_array fun item member => ih item member _
  | object readable ih => exact readBack_object fun member inside => ih member inside _

/-- A readable value is read from its text in any layout, and space behind it does not
matter. -/
theorem read?_chars {json : Json} (readable : Readable maxDepth json) (level : Option Nat)
    {space : List Char} (padding : ∀ c ∈ space, isPadding c = true) :
    read? (json.chars level ++ space) = some json := by
  have back := readable.readBack level
  have start := skipPadding_of_runEnds (back.runEnds_isPadding space)
  have noSpaceLeft : skipPadding space = [] := List.dropWhile_eq_nil_iff.2 padding
  have ends : RunEnds goesOnNumber space := by
    cases space with
    | nil => exact runEnds_nil
    | cons c rest => exact runEnds_cons.2 (goesOnNumber_of_isPadding (padding c List.mem_cons_self))
  have enough : 2 * (json.chars level).length ≤ 2 * (json.chars level ++ space).length + 2 := by
    rw [List.length_append]
    omega
  rw [read?, start, back.readValue?_eq _ space ends enough]
  simp only [noSpaceLeft, List.isEmpty_nil, if_true]

theorem parse?_ofList_chars {json : Json} (readable : Readable maxDepth json)
    (level : Option Nat) : parse? (String.ofList (json.chars level)) = some json := by
  have read : read? (json.chars level ++ []) = some json :=
    read?_chars readable level (List.forall_mem_nil _)
  rwa [parse?, String.toList_ofList, ← List.append_nil (json.chars level)]

theorem parse?_compact {json : Json} (readable : Readable maxDepth json) :
    parse? json.compact = some json :=
  parse?_ofList_chars readable none

theorem parse?_indented {json : Json} (readable : Readable maxDepth json) :
    parse? json.indented = some json :=
  parse?_ofList_chars readable (some 0)

end Values

end Json

end DiceFormula
