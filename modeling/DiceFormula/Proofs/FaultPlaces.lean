/-
# Where a text goes wrong

A front of a text is viable when some accepted text begins with it.  A fault is in
the right place when what stands in front of its position is viable and is no longer
so together with the character at the position.  There is one exception: a `d` behind
a number could have become a roll, and only the character behind it shows that it
does not.

The reader moves from term to term.  In front of each term stands a lead, a text that
a term may follow, and a reading that goes on behind an operator goes on with a longer
lead.  The place of a fault is judged from the last lead, with one lemma for every way
in which a reading breaks off.
-/

import DiceFormula.Proofs.Grammar

namespace DiceFormula.Formula

open Text

/-- The reader accepts this text. -/
def Accepted (text : List Char) : Prop :=
  ∃ formula, parseChars text = .ok formula

/-- Some accepted text begins like this. -/
def Viable (front : List Char) : Prop :=
  ∃ back, Accepted (front ++ back)

/-- A text that a term may follow: nothing, or an accepted text and an operator
between its spaces. -/
def Lead (front : List Char) : Prop :=
  front = [] ∨ ∃ (text : List Char) (op : Operator),
    Accepted text ∧ front = text ++ [' ', op.symbol, ' ']

/-- A text that breaks off behind a number with a `d` that no digit follows. -/
structure HalfRoll (front : List Char) (expected : Expected) (rest : List Char) : Prop where
  expected_eq : expected = .spaceOrEnd
  die : ∃ after, rest = 'd' :: after ∧ ∀ c ∈ after.head?, c.isDigit = false
  behindLiteral : ∃ formula value, parseChars front = .ok formula ∧
    formula.terms.getLast? = some (.literal value)

/-- The text `front ++ rest` goes wrong between the two parts, and this was expected
there. -/
structure BreaksOff (front : List Char) (expected : Expected) (rest : List Char) : Prop where
  /-- Up to here the text can be completed. -/
  viable : Viable front
  /-- With the next character it cannot, but for the beginning of a roll. -/
  next : expected ≠ .boundedInteger → ∀ c after, rest = c :: after →
    (Viable (front ++ [c]) ↔ HalfRoll front expected rest)
  /-- The beginning of a roll cannot be completed with the character behind it. -/
  halfRoll : HalfRoll front expected rest → ∀ c d after, rest = c :: d :: after →
    ¬ Viable (front ++ [c, d])
  /-- A number out of range begins here, as a term or behind the count of a roll that is
  in range, and it cannot be completed. -/
  largeNumber : expected = .boundedInteger → ∃ digits after, rest = digits ++ after ∧
    LargeRun digits ∧ RunEnds Char.isDigit after ∧ ¬ Viable (front ++ digits) ∧
    (Lead front ∨ ∃ lead count, Lead lead ∧ BoundedRun count ∧ front = lead ++ count ++ ['d'])
  /-- Any other expectation names the place in the grammar. -/
  slot : expected ≠ .boundedInteger →
    (expected.text = "term" ↔ Lead front) ∧
    (expected.text = "operator" ↔ ∃ text, Accepted text ∧ front = text ++ [' ']) ∧
    (expected.text = "' '" ↔ ∃ (text : List Char) (op : Operator),
      Accepted text ∧ front = text ++ [' ', op.symbol]) ∧
    (expected.text = "' ' or end of input" ↔ Accepted front)

namespace Lead

variable {lead : List Char}

/-- Behind a lead the reader goes on as if the text began there, and what it finds comes
behind what was read in the lead. -/
theorem exists_embedding (before : Lead lead) :
    ∃ embed : Formula → Formula,
      (∀ formula, (embed formula).terms.getLast? = formula.terms.getLast?) ∧
      ∀ rest, parseChars (lead ++ rest) = (readFrom lead.length rest).map embed := by
  rcases before with rfl | ⟨text, op, ⟨formula, accepted⟩, rfl⟩
  · refine ⟨id, fun formula => rfl, fun rest => ?_⟩
    rw [List.nil_append, parseChars_eq_readFrom, List.length_nil]
    cases readFrom 0 rest with
    | error fault => rfl
    | ok formula => rfl
  · obtain ⟨wording, rfl, reads⟩ := parseChars_eq_ok_iff.1 accepted
    refine ⟨formula.join op, fun tail => ?_, fun rest => ?_⟩
    · simp [terms, join, List.getLast?_cons, List.getLast?_append]
    · have behind := reading_readFrom (0 + wording.chars.length + 3) rest
      have whole := (reads.reading_append op behind).readFrom_eq
      rw [parseChars_eq_readFrom, List.append_assoc]
      simpa using whole

/-- A lead with a word behind it is accepted, and the word is read as the last term. -/
theorem parseChars_word (before : Lead lead) {word : List Char} {term : Term}
    (spelling : Term.Spelling word term) :
    ∃ formula, parseChars (lead ++ word) = .ok formula ∧
      formula.terms.getLast? = some term := by
  obtain ⟨embed, sameLast, embeds⟩ := before.exists_embedding
  refine ⟨embed ⟨term, []⟩, ?_, sameLast _⟩
  rw [embeds, (Reading.last spelling).readFrom_eq]
  rfl

theorem accepted_word (before : Lead lead) {word : List Char} {term : Term}
    (spelling : Term.Spelling word term) : Accepted (lead ++ word) := by
  obtain ⟨formula, accepted, -⟩ := before.parseChars_word spelling
  exact ⟨formula, accepted⟩

theorem viable (before : Lead lead) : Viable lead := by
  exact ⟨['1'], before.accepted_word (.literal boundedRun_one)⟩

/-- What breaks off behind a lead however it goes on cannot be completed. -/
theorem not_viable (before : Lead lead) {front : List Char}
    (breaksOff : ∀ back, ∃ fault, Reading lead.length (front ++ back) (.error fault)) :
    ¬ Viable (lead ++ front) := by
  rintro ⟨back, formula, accepted⟩
  obtain ⟨embed, -, embeds⟩ := before.exists_embedding
  obtain ⟨fault, reading⟩ := breaksOff back
  rw [List.append_assoc, embeds, reading.readFrom_eq] at accepted
  cases accepted

end Lead

/-- A term may follow an accepted text with an operator between its spaces. -/
theorem Accepted.lead {text : List Char} (accepted : Accepted text) (op : Operator) :
    Lead (text ++ [' ', op.symbol, ' ']) :=
  .inr ⟨text, op, accepted, rfl⟩

section Slots

/-- An accepted text ends with a character of a name. -/
theorem Accepted.exists_last {text : List Char} (accepted : Accepted text) :
    ∃ front c, text = front ++ [c] ∧ isNameChar c = true := by
  obtain ⟨formula, accepted⟩ := accepted
  rw [parseChars_eq_readFrom, ← reading_iff] at accepted
  obtain ⟨front, word, term, rfl, spelling⟩ := accepted.exists_last_word
  refine ⟨front ++ word.dropLast, word.getLast spelling.ne_nil, ?_, ?_⟩
  · rw [List.append_assoc, List.dropLast_append_getLast]
  · exact spelling.isNameChar_of_mem _ (List.getLast_mem _)

theorem isNameChar_symbol (op : Operator) : isNameChar op.symbol = false := by
  cases op <;> decide

/-- The fronts behind which each expectation belongs.  A number out of range is not
expected anywhere. -/
def Slot : Expected → List Char → Prop
  | .term, front => Lead front
  | .operator, front => ∃ text, Accepted text ∧ front = text ++ [' ']
  | .space, front => ∃ (text : List Char) (op : Operator),
      Accepted text ∧ front = text ++ [' ', op.symbol]
  | .spaceOrEnd, front => Accepted front
  | .boundedInteger, _ => False

/-- What is expected behind a front can be told from its last two characters. -/
def slotAt (front : List Char) : Expected :=
  match front.reverse with
  | [] => .term
  | ' ' :: c :: _ => if isNameChar c then .operator else .term
  | c :: _ => if isNameChar c then .spaceOrEnd else .space

/-- A front belongs to one expectation only. -/
theorem slotAt_of_slot {expected : Expected} {front : List Char} (slot : Slot expected front) :
    slotAt front = expected := by
  cases expected with
  | term =>
      rcases slot with rfl | ⟨text, op, accepted, rfl⟩
      · rfl
      · simp [slotAt, isNameChar_symbol]
  | operator =>
      obtain ⟨text, accepted, rfl⟩ := slot
      obtain ⟨front, c, rfl, allowed⟩ := accepted.exists_last
      simp [slotAt, allowed]
  | space =>
      obtain ⟨text, op, accepted, rfl⟩ := slot
      have notSpace : op.symbol ≠ ' ' := by cases op <;> decide
      simp [slotAt, isNameChar_symbol, notSpace]
  | spaceOrEnd =>
      obtain ⟨text, c, rfl, allowed⟩ := Accepted.exists_last slot
      have notSpace : c ≠ ' ' := by
        rintro rfl
        exact absurd allowed (by decide)
      simp [slotAt, notSpace, allowed]
  | boundedInteger => exact slot.elim

theorem text_injective : Function.Injective Expected.text := by
  intro left right same
  cases left <;> cases right <;> simp_all [Expected.text]

/-- Where a front belongs to an expectation, the words of the expectation say which. -/
theorem slot_words {expected : Expected} {front : List Char} (slot : Slot expected front) :
    (expected.text = "term" ↔ Lead front) ∧
    (expected.text = "operator" ↔ ∃ text, Accepted text ∧ front = text ++ [' ']) ∧
    (expected.text = "' '" ↔ ∃ (text : List Char) (op : Operator),
      Accepted text ∧ front = text ++ [' ', op.symbol]) ∧
    (expected.text = "' ' or end of input" ↔ Accepted front) := by
  have words (other : Expected) : expected.text = other.text ↔ Slot other front := by
    constructor
    · intro same
      rwa [← text_injective same]
    · intro slotOther
      rw [← slotAt_of_slot slot, slotAt_of_slot slotOther]
  exact ⟨words .term, words .operator, words .space, words .spaceOrEnd⟩

end Slots

namespace BreaksOff

/-- Where neither a roll nor a number has begun, it is enough that no completion of the
next character is accepted. -/
theorem of_slot {front : List Char} {expected : Expected} {rest : List Char}
    (slot : Slot expected front) (viable : Viable front) (notRoll : expected ≠ .spaceOrEnd)
    (next : ∀ c after, rest = c :: after → ¬ Viable (front ++ [c])) :
    BreaksOff front expected rest where
  viable := viable
  next _ c after same :=
    ⟨fun more => (next c after same more).elim, fun half => (notRoll half.expected_eq).elim⟩
  halfRoll half := (notRoll half.expected_eq).elim
  largeNumber large := by
    subst large
    exact slot.elim
  slot _ := slot_words slot

variable {lead : List Char}

/-- No term begins behind a lead. -/
theorem of_noTerm (before : Lead lead) {rest : List Char} (ends : RunEnds isNameChar rest) :
    BreaksOff lead .term rest := by
  refine of_slot before before.viable (by decide) ?_
  rintro c after rfl
  refine before.not_viable fun back => ?_
  exact ⟨_, .badTerm (.missing (runEnds_cons.2 (runEnds_cons.1 ends)))⟩

/-- A term and a space are not followed by an operator. -/
theorem of_noOperator (before : Lead lead) {word rest : List Char} {term : Term}
    (spelling : Term.Spelling word term)
    (other : ∀ c ∈ rest.head?, Operator.ofSymbol? c = none) :
    BreaksOff (lead ++ word ++ [' ']) .operator rest := by
  have accepted := before.accepted_word spelling
  refine of_slot ⟨_, accepted, rfl⟩ ?_ (by decide) ?_
  · obtain ⟨back, more⟩ := (accepted.lead .add).viable
    exact ⟨['+', ' '] ++ back, by simpa [Operator.symbol] using more⟩
  · rintro c after rfl
    have unviable : ¬ Viable (lead ++ (word ++ [' ', c])) := by
      refine before.not_viable fun back => ?_
      rw [List.append_assoc]
      exact ⟨_, .noOperator spelling (by simpa using other)⟩
    simpa using unviable

/-- An operator is not followed by a space. -/
theorem of_noOperand (before : Lead lead) {word rest : List Char} {term : Term}
    (spelling : Term.Spelling word term) (op : Operator) (other : ∀ c ∈ rest.head?, c ≠ ' ') :
    BreaksOff (lead ++ word ++ [' ', op.symbol]) .space rest := by
  have accepted := before.accepted_word spelling
  refine of_slot ⟨_, op, accepted, rfl⟩ ?_ (by decide) ?_
  · obtain ⟨back, more⟩ := (accepted.lead op).viable
    exact ⟨[' '] ++ back, by simpa using more⟩
  · rintro c after rfl
    have unviable : ¬ Viable (lead ++ (word ++ [' ', op.symbol, c])) := by
      refine before.not_viable fun back => ?_
      rw [List.append_assoc]
      exact ⟨_, .noOperand spelling op (by simpa using other)⟩
    simpa using unviable

/-- A term that stops in front of one character other than a space breaks off there
however the text goes on, unless it is a literal in front of a `d`. -/
theorem stops_or_literal {term : Term} {c : Char} {rest : List Char}
    (stops : term.Stops (c :: rest)) :
    (∀ back, term.Stops (c :: back)) ∨
      c = 'd' ∧ (∃ value, term = .literal value) ∧ RunEnds Char.isDigit rest := by
  cases term with
  | roll count faces => exact .inl fun back => runEnds_cons.2 (runEnds_cons.1 stops)
  | identifier name => exact .inl fun back => runEnds_cons.2 (runEnds_cons.1 stops)
  | literal value =>
      by_cases die : c = 'd'
      · subst die
        exact .inr ⟨rfl, ⟨value, rfl⟩, stops.2 rest rfl⟩
      · refine .inl fun back => ⟨runEnds_cons.2 (runEnds_cons.1 stops.1), ?_⟩
        intro after same
        exact (die (List.cons.inj same).1).elim

/-- A literal with a `d` behind it is the beginning of a roll. -/
theorem viable_die (before : Lead lead) {word : List Char} {value : Nat}
    (spelling : Term.Spelling word (.literal value)) : Viable (lead ++ word ++ ['d']) := by
  cases spelling with
  | literal run =>
      have accepted := before.accepted_word (.roll run boundedRun_one)
      exact ⟨['1'], by simpa using accepted⟩

/-- What a half roll says about the last word and what stands behind it. -/
theorem literal_of_halfRoll (before : Lead lead) {word rest : List Char} {term : Term} {c : Char}
    {expected : Expected} (spelling : Term.Spelling word term)
    (half : HalfRoll (lead ++ word) expected (c :: rest)) :
    c = 'd' ∧ RunEnds Char.isDigit rest ∧ ∃ value, term = .literal value := by
  obtain ⟨after, same, ends⟩ := half.die
  obtain ⟨rfl, rfl⟩ := List.cons.inj same
  obtain ⟨formula, value, accepted, lastLiteral⟩ := half.behindLiteral
  obtain ⟨other, acceptedOther, lastTerm⟩ := before.parseChars_word spelling
  obtain rfl : formula = other := Except.ok.inj (accepted.symm.trans acceptedOther)
  exact ⟨rfl, ends, value, Option.some.inj (lastTerm.symm.trans lastLiteral)⟩

/-- A term is followed by something that is not a space. -/
theorem of_noSpace (before : Lead lead) {word rest : List Char} {term : Term} {c : Char}
    (spelling : Term.Spelling word term) (stops : term.Stops (c :: rest)) (other : c ≠ ' ') :
    BreaksOff (lead ++ word) .spaceOrEnd (c :: rest) := by
  have accepted := before.accepted_word spelling
  -- However the text goes on behind a place where the term stops, it is turned down there.
  have unviable (front : List Char) (stopsAll : ∀ back, term.Stops (c :: (front ++ back))) :
      ¬ Viable (lead ++ word ++ c :: front) := by
    rw [List.append_assoc]
    refine before.not_viable fun back => ?_
    rw [List.append_assoc]
    exact ⟨_, .noSpace spelling (stopsAll back) other⟩
  refine ⟨⟨[], by simpa using accepted⟩, fun _ => ?_, ?_, ?_, fun _ => slot_words accepted⟩
  · rintro c after ⟨rfl, rfl⟩
    constructor
    · intro more
      rcases stops_or_literal stops with stopsAll | ⟨rfl, ⟨value, rfl⟩, ends⟩
      · exact (unviable [] stopsAll more).elim
      · obtain ⟨formula, parsed, lastTerm⟩ := before.parseChars_word spelling
        exact ⟨rfl, ⟨rest, rfl, ends⟩, formula, value, parsed, lastTerm⟩
    · intro half
      obtain ⟨rfl, -, value, rfl⟩ := literal_of_halfRoll before spelling half
      exact viable_die before spelling
  · rintro half c d after ⟨rfl, rfl⟩
    obtain ⟨rfl, ends, value, rfl⟩ := literal_of_halfRoll before spelling half
    refine unviable [d] fun back => ⟨stops.1, ?_⟩
    rintro after ⟨rfl, rfl⟩
    exact runEnds_cons.2 (runEnds_cons.1 ends)
  · rintro ⟨⟩

/-- A number out of range can be neither completed nor taken for something else. -/
theorem of_large {front digits rest : List Char} (viable : Viable front) (run : LargeRun digits)
    (ends : RunEnds Char.isDigit rest) (unviable : ¬ Viable (front ++ digits))
    (place : Lead front ∨
      ∃ lead count, Lead lead ∧ BoundedRun count ∧ front = lead ++ count ++ ['d']) :
    BreaksOff front .boundedInteger (digits ++ rest) where
  viable := viable
  next notLarge := (notLarge rfl).elim
  halfRoll half := by cases half.expected_eq
  largeNumber _ := ⟨digits, rest, rfl, run, ends, unviable, place⟩
  slot notLarge := (notLarge rfl).elim

/-- A number out of range begins behind a lead. -/
theorem of_largeNumber (before : Lead lead) {digits rest : List Char} (run : LargeRun digits)
    (ends : RunEnds Char.isDigit rest) : BreaksOff lead .boundedInteger (digits ++ rest) := by
  refine of_large before.viable run ends (before.not_viable fun back => ?_) (.inl before)
  obtain ⟨more, behind, rfl, allDigits, behindEnds⟩ := exists_maximal_run Char.isDigit back
  rw [← List.append_assoc]
  exact ⟨_, .badTerm (.largeNumber (run.append allDigits) behindEnds)⟩

/-- A number out of range stands behind the count of a roll. -/
theorem of_largeFaces (before : Lead lead) {count faces rest : List Char}
    (countRun : BoundedRun count) (run : LargeRun faces) (ends : RunEnds Char.isDigit rest) :
    BreaksOff (lead ++ count ++ ['d']) .boundedInteger (faces ++ rest) := by
  have viable : Viable (lead ++ count ++ ['d']) := viable_die before (.literal countRun)
  have unviable : ¬ Viable (lead ++ (count ++ 'd' :: faces)) := by
    refine before.not_viable fun back => ?_
    obtain ⟨more, behind, rfl, allDigits, behindEnds⟩ := exists_maximal_run Char.isDigit back
    rw [List.append_assoc, List.cons_append, ← List.append_assoc faces]
    exact ⟨_, .badTerm (.largeFaces countRun (run.append allDigits) behindEnds)⟩
  refine of_large viable run ends ?_ (.inr ⟨lead, count, before, countRun, rfl⟩)
  simpa using unviable

end BreaksOff

/-- From whatever lead a reading starts, where it breaks off the text goes wrong. -/
theorem Reading.breaksOff {position : Nat} {text : List Char} {fault : SyntaxFault}
    (reading : Reading position text (.error fault)) {lead : List Char} (before : Lead lead)
    (size : lead.length = position) :
    ∃ front rest, lead ++ text = front ++ rest ∧ front.length = fault.position ∧
      BreaksOff front fault.expected rest := by
  generalize outcome : Except.error fault = result at reading
  induction reading generalizing lead with
  | badTerm reading =>
      cases outcome
      subst size
      cases reading with
      | missing ends => exact ⟨lead, _, rfl, rfl, .of_noTerm before ends⟩
      | largeNumber run ends => exact ⟨lead, _, rfl, rfl, .of_largeNumber before run ends⟩
      | @largeFaces count faces rest countRun run ends =>
          exact ⟨lead ++ count ++ ['d'], faces ++ rest, by simp, by simp [Nat.add_assoc],
            .of_largeFaces before countRun run ends⟩
  | @noSpace position word rest term c spelling stops other =>
      cases outcome
      subst size
      exact ⟨lead ++ word, c :: rest, by simp, by simp, .of_noSpace before spelling stops other⟩
  | @noOperator position word rest term spelling other =>
      cases outcome
      subst size
      exact ⟨lead ++ word ++ [' '], rest, by simp, by simp [Nat.add_assoc],
        .of_noOperator before spelling other⟩
  | @noOperand position word rest term spelling op other =>
      cases outcome
      subst size
      exact ⟨lead ++ word ++ [' ', op.symbol], rest, by simp, by simp [Nat.add_assoc],
        .of_noOperand before spelling op other⟩
  | last => cases outcome
  | @step position word operand term result spelling op reading ih =>
      cases result with
      | ok tail => cases outcome
      | error inner =>
          cases outcome
          have longer := (before.accepted_word spelling).lead op
          obtain ⟨front, rest, same, place, breaksOff⟩ :=
            ih longer (by simp [size, Nat.add_assoc]) rfl
          exact ⟨front, rest, by simpa using same, place, breaksOff⟩

/-- Every fault is in the right place: what stands in front of it can be completed, and
with what stands behind it that is no longer so. -/
theorem parse_fault_breaksOff (source : String) (fault : SyntaxFault)
    (rejected : parse source = .error fault) :
    ∃ front rest, source.toList = front ++ rest ∧ front.length = fault.position ∧
      BreaksOff front fault.expected rest := by
  have reading := reading_readFrom 0 source.toList
  rw [← parseChars_eq_readFrom] at reading
  rw [show parseChars source.toList = .error fault from rejected] at reading
  exact reading.breaksOff (.inl rfl) rfl

/-- The text breaks off behind its second number, where a roll has begun. -/
theorem parse_fault_breaksOff_halfRoll :
    parse "10 + 2dx" = .error ⟨6, .spaceOrEnd⟩ ∧
    ∃ front rest, "10 + 2dx".toList = front ++ rest ∧ front.length = 6 ∧
      BreaksOff front .spaceOrEnd rest := by
  have rejected : parse "10 + 2dx" = .error ⟨6, .spaceOrEnd⟩ := by decide +kernel
  exact ⟨rejected, parse_fault_breaksOff _ _ rejected⟩

end DiceFormula.Formula
