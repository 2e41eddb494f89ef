/-
# Joined texts

Two texts can be joined by an operator between its spaces.  The reader goes through the
first of them as if nothing followed, because a space ends every term just as the end of
the text does, and through the second as if the text began there.  So a joined text is
accepted exactly when both parts are, its formula is the join of theirs, and otherwise it
has the fault of the first part that has one, at the same character.

One fault moves.  A first part that ends with an operator lacks the space behind it; in the
joined text the space is there and it is a term that is missing.
-/

import DiceFormula.Proofs.Grammar

namespace DiceFormula

open Text

/-- The same fault with this many characters in front of the text. -/
def SyntaxFault.behind (fault : SyntaxFault) (length : Nat) : SyntaxFault :=
  ⟨length + fault.position, fault.expected⟩

/-- What becomes of a fault when the text, of this length, goes on with a space and an
operator: only a space that was missing at the very end is found. -/
def SyntaxFault.goingOn (fault : SyntaxFault) (length : Nat) : SyntaxFault :=
  if fault = ⟨length, .space⟩ then ⟨length + 1, .term⟩ else fault

/-- A space that was missing at the end is found. -/
theorem SyntaxFault.goingOn_atEnd (length : Nat) :
    SyntaxFault.goingOn ⟨length, .space⟩ length = ⟨length + 1, .term⟩ :=
  if_pos rfl

/-- Any other fault stays. -/
theorem SyntaxFault.goingOn_of_ne {fault : SyntaxFault} {length : Nat}
    (other : ¬ (fault.position = length ∧ fault.expected = .space)) :
    fault.goingOn length = fault := by
  apply if_neg
  rintro rfl
  exact other ⟨rfl, rfl⟩

/-- A run that is over in front of a text is over there when more is written behind it. -/
theorem Text.RunEnds.append_cons {allowed : Char → Bool} {text : List Char}
    (ends : RunEnds allowed text) {c : Char} (other : allowed c = false) (rest : List Char) :
    RunEnds allowed (text ++ c :: rest) := by
  cases text with
  | nil => exact runEnds_cons.2 other
  | cons d more => exact ends.append (List.cons_ne_nil d more) (c :: rest)

/-- Where a term stops it stops when a space is written behind the text. -/
theorem Term.Stops.append_space {term : Term} {text : List Char} (stops : term.Stops text)
    (rest : List Char) : term.Stops (text ++ ' ' :: rest) := by
  cases term with
  | roll count faces => exact RunEnds.append_cons stops (by decide) rest
  | identifier name => exact RunEnds.append_cons stops (by decide) rest
  | literal value =>
      constructor
      · exact stops.1.append_cons (by decide) rest
      · intro after die
        cases text with
        | nil => cases die
        | cons c more =>
            obtain ⟨rfl, rfl⟩ := List.cons.inj die
            exact (stops.2 more rfl).append_cons (by decide) rest

namespace Formula

section Places

variable {position : Nat} {text : List Char}

/-- Reading a term does not depend on the number of characters in front of it. -/
theorem TermReading.behind {result : Except SyntaxFault (Term × Nat)}
    (reading : TermReading position text result) (length : Nat) :
    TermReading (length + position) text (result.mapError (·.behind length)) := by
  cases reading with
  | word spelling stops => exact .word spelling stops
  | missing ends => exact .missing ends
  | largeNumber run ends => exact .largeNumber run ends
  | @largeFaces count faces rest countRun run ends =>
      have moved := @TermReading.largeFaces (length + position) _ _ _ countRun run ends
      have place :
          length + (position + count.length + 1) = length + position + count.length + 1 := by
        omega
      simpa only [Except.mapError, SyntaxFault.behind, place] using moved

/-- Reading does not depend on the number of characters in front of the text. -/
theorem Reading.behind {result : Except SyntaxFault Formula}
    (reading : Reading position text result) (length : Nat) :
    Reading (length + position) text (result.mapError (·.behind length)) := by
  induction reading with
  | badTerm reading => exact .badTerm (reading.behind length)
  | @noSpace position _ _ _ _ spelling stops other =>
      have moved := @Reading.noSpace (length + position) _ _ _ _ spelling stops other
      simpa [Except.mapError, SyntaxFault.behind, Nat.add_assoc] using moved
  | @noOperator position _ _ _ spelling other =>
      have moved := @Reading.noOperator (length + position) _ _ _ spelling other
      simpa [Except.mapError, SyntaxFault.behind, Nat.add_assoc] using moved
  | @noOperand position _ _ _ spelling op other =>
      have moved := @Reading.noOperand (length + position) _ _ _ spelling op other
      simpa [Except.mapError, SyntaxFault.behind, Nat.add_assoc] using moved
  | last spelling => exact .last spelling
  | @step position word operand term result spelling op reading ih =>
      have place : length + (position + word.length + 3) = length + position + word.length + 3 := by
        omega
      rw [place] at ih
      have whole := Reading.step spelling op ih
      cases result with
      | error fault => exact whole
      | ok formula => exact whole

end Places

section Front

variable {position : Nat} {text : List Char}

/-- A term that cannot be read cannot be read with a space behind the text. -/
theorem TermReading.append_space {fault : SyntaxFault}
    (reading : TermReading position text (.error fault)) (rest : List Char) :
    TermReading position (text ++ ' ' :: rest) (.error fault) ∧ fault.expected ≠ .space := by
  cases reading with
  | missing ends => exact ⟨.missing (ends.append_cons (by decide) rest), nofun⟩
  | largeNumber run ends =>
      rw [List.append_assoc]
      exact ⟨.largeNumber run (ends.append_cons (by decide) rest), nofun⟩
  | largeFaces countRun run ends =>
      rw [List.append_assoc, List.cons_append, List.append_assoc]
      exact ⟨.largeFaces countRun run (ends.append_cons (by decide) rest), nofun⟩

/-- No term begins with an operator. -/
theorem reading_of_operator (op : Operator) (rest : List Char) :
    Reading position (op.symbol :: rest) (.error ⟨position, .term⟩) := by
  apply Reading.badTerm
  apply TermReading.missing
  apply runEnds_cons.2
  cases op <;> decide

/-- A text that cannot be read has its fault also when a space and an operator are written
behind it, but for a space that was missing at its end. -/
theorem Reading.append_operator {fault : SyntaxFault}
    (reading : Reading position text (.error fault)) (op : Operator) (rest : List Char) :
    Reading position (text ++ ' ' :: op.symbol :: rest)
      (.error (fault.goingOn (position + text.length))) := by
  generalize outcome : Except.error fault = result at reading
  induction reading with
  | last => cases outcome
  | badTerm reading =>
      cases outcome
      obtain ⟨reading, notSpace⟩ := reading.append_space (op.symbol :: rest)
      rw [SyntaxFault.goingOn_of_ne fun same => notSpace same.2]
      exact .badTerm reading
  | noSpace spelling stops other =>
      cases outcome
      rw [SyntaxFault.goingOn_of_ne (by simp), List.append_assoc]
      exact .noSpace spelling (stops.append_space (op.symbol :: rest)) other
  | @noOperator position word behind term spelling other =>
      cases outcome
      rw [SyntaxFault.goingOn_of_ne (by simp), List.append_assoc]
      apply Reading.noOperator spelling
      cases behind with
      | nil => exact fun c space => Option.mem_some.1 space ▸ by decide
      | cons c more => exact other
  | @noOperand position word behind term spelling before other =>
      cases outcome
      rw [List.append_assoc]
      cases behind with
      | nil =>
          have stop : position + (word ++ [' ', before.symbol]).length =
              position + word.length + 2 := by
            simp [Nat.add_assoc]
          rw [stop, SyntaxFault.goingOn_atEnd]
          exact .step spelling before (reading_of_operator op rest)
      | cons c more =>
          have inside : position + word.length + 2 ≠
              position + (word ++ ' ' :: before.symbol :: c :: more).length := by
            simp only [List.length_append, List.length_cons]
            omega
          rw [SyntaxFault.goingOn_of_ne fun same => inside same.1]
          exact .noOperand spelling before other
  | @step position word operand term result spelling before reading ih =>
      cases result with
      | ok tail => cases outcome
      | error inner =>
          cases outcome
          have stop : position + (word ++ ' ' :: before.symbol :: ' ' :: operand).length =
              position + word.length + 3 + operand.length := by
            simp only [List.length_append, List.length_cons]
            omega
          rw [stop, List.append_assoc]
          exact .step spelling before (ih rfl)

end Front

section Parts

variable {front back : List Char} {op : Operator}

/-- Where the first part is turned down, the joined text is. -/
theorem parseChars_joined_of_error {fault : SyntaxFault}
    (rejected : parseChars front = .error fault) :
    parseChars (front ++ ' ' :: op.symbol :: ' ' :: back) =
      .error (fault.goingOn front.length) := by
  have reading := reading_readFrom 0 front
  rw [← parseChars_eq_readFrom, rejected] at reading
  have whole := reading.append_operator op (' ' :: back)
  rw [Nat.zero_add] at whole
  rw [parseChars_eq_readFrom]
  exact whole.readFrom_eq

/-- Where the first part is accepted, the second is read as if the text began there. -/
theorem parseChars_joined_of_ok {left : Formula} (accepted : parseChars front = .ok left) :
    parseChars (front ++ ' ' :: op.symbol :: ' ' :: back) =
      ((parseChars back).mapError (·.behind (front.length + 3))).map (left.join op) := by
  obtain ⟨wording, rfl, reads⟩ := parseChars_eq_ok_iff.1 accepted
  have behind := (reading_readFrom 0 back).behind (wording.chars.length + 3)
  have whole : Reading 0 (wording.chars ++ ' ' :: op.symbol :: ' ' :: back) _ :=
    reads.reading_append op (by rwa [Nat.zero_add])
  rw [parseChars_eq_readFrom, parseChars_eq_readFrom]
  exact whole.readFrom_eq

end Parts

/-- Reading goes part by part.  Two texts with an operator between its spaces are accepted
exactly when both are, with the terms and operators of both in order.  Behind an accepted
text a fault is the fault of the second, at its place there; and a fault of the first stays
where it is, except that a space that was missing at its end is found and a term is missing
instead. -/
theorem parse_joined (first second : String) (op : Operator) :
    let joined := first ++ String.ofList [' ', op.symbol, ' '] ++ second
    ((∃ formula, parse joined = .ok formula) ↔
      (∃ left, parse first = .ok left) ∧ ∃ right, parse second = .ok right) ∧
    (∀ left right, parse first = .ok left → parse second = .ok right →
      ∃ formula, parse joined = .ok formula ∧
        formula.terms = left.terms ++ right.terms ∧
        formula.operators = left.operators ++ op :: right.operators) ∧
    (∀ left fault, parse first = .ok left → parse second = .error fault →
      parse joined = .error ⟨first.length + 3 + fault.position, fault.expected⟩) ∧
    (∀ fault, parse first = .error fault →
      ¬ (fault.position = first.length ∧ fault.expected = .space) →
        parse joined = .error fault) ∧
    ∀ fault, parse first = .error fault →
      fault.position = first.length ∧ fault.expected = .space →
        parse joined = .error ⟨first.length + 1, .term⟩ := by
  intro joined
  have chars : joined.toList = first.toList ++ ' ' :: op.symbol :: ' ' :: second.toList := by
    simp [joined]
  have ofError {fault : SyntaxFault} (rejected : parse first = .error fault) :
      parse joined = .error (fault.goingOn first.length) := by
    rw [parse, chars, parseChars_joined_of_error rejected, String.length_toList]
  have ofOk {left : Formula} (accepted : parse first = .ok left) : parse joined =
      ((parse second).mapError (·.behind (first.length + 3))).map (left.join op) := by
    rw [parse, chars, parseChars_joined_of_ok accepted, String.length_toList]
    rfl
  refine ⟨⟨?_, ?_⟩, ?_, ?_, ?_, ?_⟩
  · intro accepted
    cases front : parse first with
    | error fault =>
        rw [ofError front] at accepted
        simp at accepted
    | ok left =>
        cases back : parse second with
        | error fault =>
            rw [ofOk front, back] at accepted
            simp [Except.mapError, Except.map] at accepted
        | ok right => exact ⟨⟨left, rfl⟩, right, rfl⟩
  · intro accepted
    obtain ⟨⟨left, front⟩, right, back⟩ := accepted
    use left.join op right
    rw [ofOk front, back]
    rfl
  · intro left right front back
    refine ⟨left.join op right, ?_, terms_join left op right, operators_join left op right⟩
    rw [ofOk front, back]
    rfl
  · intro left fault front back
    rw [ofOk front, back]
    rfl
  · intro fault rejected elsewhere
    rw [ofError rejected, SyntaxFault.goingOn_of_ne elsewhere]
  · intro fault rejected atEnd
    obtain ⟨position, expected⟩ := fault
    obtain ⟨rfl, rfl⟩ := atEnd
    rw [ofError rejected, SyntaxFault.goingOn_atEnd]

/-- A missing space is found, and then a term is missing. -/
example : parse "1 +" = .error ⟨3, .space⟩ ∧ parse "1 + + 2" = .error ⟨4, .term⟩ := by
  decide +kernel

end Formula

end DiceFormula
