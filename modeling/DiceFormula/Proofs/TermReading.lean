/-
# Words and the terms they are read as

A term is written as one word.  Which words there are and which term each of them
stands for is said here without an order of alternatives; the kinds of words have
no word in common.  The main statement describes the reader of terms completely:
it finds the word in front of a place where the term stops, or else one of three
faults, each with the place it is found at.
-/

import DiceFormula.Formula.Parser
import DiceFormula.Proofs.DigitRuns

namespace DiceFormula

open Text

theorem isNameChar_of_isDigit {c : Char} (digit : c.isDigit = true) : isNameChar c = true := by
  simp [isNameChar, Char.isAlphanum, digit]

/-- A text that no name continues is a text that no number continues. -/
theorem runEnds_isDigit_of_isNameChar {rest : List Char} (ends : RunEnds isNameChar rest) :
    RunEnds Char.isDigit rest := by
  cases rest with
  | nil => simp
  | cons c after =>
      rw [runEnds_cons, Bool.eq_false_iff] at ends ⊢
      exact fun digit => ends (isNameChar_of_isDigit digit)

namespace Name

@[simp]
theorem ofChars?_chars (name : Name) : ofChars? name.chars = some name := by
  rw [ofChars?, dif_neg name.chars_ne_nil, dif_pos (List.all_eq_true.2 name.chars_allowed)]

end Name

namespace Term

/-- The words a term can be written as.  Numbers are bounded and may have leading
zeros; an identifier does not begin with a digit. -/
inductive Spelling : List Char → Term → Prop where
  | literal {digits : List Char} (run : BoundedRun digits) :
      Spelling digits (.literal (digitsValue digits))
  | roll {count faces : List Char} (countRun : BoundedRun count) (facesRun : BoundedRun faces) :
      Spelling (count ++ 'd' :: faces) (.roll (digitsValue count) (digitsValue faces))
  | identifier {name : Name} (start : ∀ c ∈ name.chars.head?, c.isDigit = false) :
      Spelling name.chars (.identifier name)

/-- Every character of a word can stand in a name. -/
theorem Spelling.isNameChar_of_mem {word : List Char} {term : Term}
    (spelling : Spelling word term) : ∀ c ∈ word, isNameChar c = true := by
  cases spelling with
  | literal run => exact fun c member => isNameChar_of_isDigit (run.isDigit c member)
  | roll countRun facesRun =>
      intro c member
      rcases List.mem_append.1 member with inCount | inFaces
      · exact isNameChar_of_isDigit (countRun.isDigit c inCount)
      · rcases List.mem_cons.1 inFaces with rfl | inFaces
        · decide
        · exact isNameChar_of_isDigit (facesRun.isDigit c inFaces)
  | @identifier name start => exact name.chars_allowed

theorem Spelling.ne_nil {word : List Char} {term : Term} (spelling : Spelling word term) :
    word ≠ [] := by
  cases spelling with
  | literal run => exact run.ne_nil
  | roll countRun facesRun => simp
  | @identifier name start => exact name.chars_ne_nil

/-- A term that has been read stops in front of this text: no longer word is read.
A literal would go on as a roll in front of a `d` with a digit behind it. -/
def Stops : Term → List Char → Prop
  | roll .., rest => RunEnds Char.isDigit rest
  | literal _, rest =>
    RunEnds Char.isDigit rest ∧ ∀ after, rest = 'd' :: after → RunEnds Char.isDigit after
  | identifier _, rest => RunEnds isNameChar rest

/-- Every term stops at a character that no name has. -/
theorem stops_of_runEnds {rest : List Char} (term : Term) (ends : RunEnds isNameChar rest) :
    term.Stops rest := by
  cases term with
  | roll count faces => exact runEnds_isDigit_of_isNameChar ends
  | literal value =>
      refine ⟨runEnds_isDigit_of_isNameChar ends, ?_⟩
      rintro after rfl
      exact absurd (runEnds_cons.1 ends) (by decide)
  | identifier name => exact ends

end Term

namespace Formula.TermSpan

/-- The runs at the front of a text, by what is there and not by what is tried first. -/
inductive Front : List Char → Option TermSpan → Prop where
  | roll {count faces rest : List Char} (countRun : DigitRun count) (facesRun : DigitRun faces)
      (ends : RunEnds Char.isDigit rest) :
      Front (count ++ 'd' :: (faces ++ rest)) (some (.roll count faces))
  | integer {digits rest : List Char} (run : DigitRun digits)
      (ends : RunEnds Char.isDigit rest)
      (noFaces : ∀ after, rest = 'd' :: after → RunEnds Char.isDigit after) :
      Front (digits ++ rest) (some (.integer digits))
  | identifier {name : Name} {rest : List Char} (start : RunEnds Char.isDigit name.chars)
      (ends : RunEnds isNameChar rest) :
      Front (name.chars ++ rest) (some (.identifier name))
  | missing {text : List Char} (ends : RunEnds isNameChar text) : Front text none

/-- A roll is tried first and takes both of its runs whole. -/
theorem roll?_eq_some {count faces rest : List Char} (countRun : DigitRun count)
    (facesRun : DigitRun faces) (ends : RunEnds Char.isDigit rest) :
    roll? (count ++ 'd' :: (faces ++ rest)) = some (.roll count faces) := by
  have dieMark : RunEnds Char.isDigit ('d' :: (faces ++ rest)) := runEnds_cons.2 (by decide)
  simp only [roll?, takeWhile_run countRun.isDigit dieMark, dropWhile_run countRun.isDigit dieMark]
  cases count with
  | nil => exact absurd rfl countRun.ne_nil
  | cons c more =>
      simp only [takeWhile_run facesRun.isDigit ends]
      cases faces with
      | nil => exact absurd rfl facesRun.ne_nil
      | cons d more => rfl

/-- There is no roll without digits in front. -/
theorem roll?_eq_none_of_runEnds {text : List Char} (ends : RunEnds Char.isDigit text) :
    roll? text = none := by
  simp only [roll?, takeWhile_of_runEnds ends]

/-- There is no roll without faces. -/
theorem roll?_eq_none_of_noFaces {digits rest : List Char} (run : DigitRun digits)
    (ends : RunEnds Char.isDigit rest)
    (noFaces : ∀ after, rest = 'd' :: after → RunEnds Char.isDigit after) :
    roll? (digits ++ rest) = none := by
  simp only [roll?, takeWhile_run run.isDigit ends, dropWhile_run run.isDigit ends]
  split
  · next after => rw [takeWhile_of_runEnds (noFaces after rfl)]
  · rfl

theorem integer?_eq_some {digits rest : List Char} (run : DigitRun digits)
    (ends : RunEnds Char.isDigit rest) : integer? (digits ++ rest) = some (.integer digits) := by
  rw [integer?, takeWhile_run run.isDigit ends]
  cases digits with
  | nil => exact absurd rfl run.ne_nil
  | cons c more => rfl

theorem integer?_eq_none {text : List Char} (ends : RunEnds Char.isDigit text) :
    integer? text = none := by
  rw [integer?, takeWhile_of_runEnds ends]

/-- The first alternative that matches is the one the front of the text calls for. -/
theorem Front.ofText?_eq {text : List Char} {span : Option TermSpan} (front : Front text span) :
    ofText? text = span := by
  cases front with
  | roll countRun facesRun ends =>
      rw [ofText?, roll?_eq_some countRun facesRun ends]
      rfl
  | integer run ends noFaces =>
      rw [ofText?, roll?_eq_none_of_noFaces run ends noFaces, integer?_eq_some run ends]
      rfl
  | @identifier name rest start ends =>
      have notNumber : RunEnds Char.isDigit (name.chars ++ rest) :=
        start.append name.chars_ne_nil rest
      rw [ofText?, roll?_eq_none_of_runEnds notNumber, integer?_eq_none notNumber, identifier?,
        takeWhile_run name.chars_allowed ends, Name.ofChars?_chars]
      rfl
  | missing ends =>
      have notNumber := runEnds_isDigit_of_isNameChar ends
      rw [ofText?, roll?_eq_none_of_runEnds notNumber, integer?_eq_none notNumber, identifier?,
        takeWhile_of_runEnds ends]
      rfl

/-- A run of digits in front is a number of its own or the count of a roll. -/
theorem front_of_digits {digits rest : List Char} (run : DigitRun digits)
    (ends : RunEnds Char.isDigit rest) :
    Front (digits ++ rest) (some (.integer digits)) ∨
      ∃ faces, Front (digits ++ rest) (some (.roll digits faces)) := by
  by_cases die : ∃ after, rest = 'd' :: after ∧ ¬ RunEnds Char.isDigit after
  · obtain ⟨after, rfl, more⟩ := die
    obtain ⟨faces, behind, rfl, all, facesEnd⟩ := exists_maximal_run Char.isDigit after
    have nonempty : faces ≠ [] := by
      rintro rfl
      exact more facesEnd
    exact .inr ⟨faces, .roll run ⟨nonempty, all⟩ facesEnd⟩
  · refine .inl (.integer run ends fun after same => ?_)
    by_contra more
    exact die ⟨after, same, more⟩

/-- Every text has a front. -/
theorem exists_front (text : List Char) : ∃ span, Front text span := by
  obtain ⟨digits, rest, rfl, allDigits, digitsEnd⟩ := exists_maximal_run Char.isDigit text
  cases digits with
  | cons c more =>
      rcases front_of_digits ⟨by simp, allDigits⟩ digitsEnd with front | ⟨faces, front⟩
      · exact ⟨_, front⟩
      · exact ⟨_, front⟩
  | nil =>
      obtain ⟨word, behind, rfl, allowed, wordEnds⟩ := exists_maximal_run isNameChar rest
      cases word with
      | nil => exact ⟨none, .missing wordEnds⟩
      | cons c more =>
          let name : Name := ⟨c :: more, by simp, allowed⟩
          have start : RunEnds Char.isDigit name.chars := runEnds_cons.2 (runEnds_cons.1 digitsEnd)
          exact ⟨_, .identifier start wordEnds⟩

end Formula.TermSpan

namespace Formula

/-- Everything that reading a term at a position can come to: the term of a word that
stops, no word at all, or a number beyond the bound, which is a number of its own or
the count of a roll, or else the faces of a roll. -/
inductive TermReading (position : Nat) : List Char → Except SyntaxFault (Term × Nat) → Prop where
  | word {word rest : List Char} {term : Term} (spelling : Term.Spelling word term)
      (stops : term.Stops rest) : TermReading position (word ++ rest) (.ok (term, word.length))
  | missing {text : List Char} (ends : RunEnds isNameChar text) :
      TermReading position text (.error ⟨position, .term⟩)
  | largeNumber {digits rest : List Char} (run : LargeRun digits)
      (ends : RunEnds Char.isDigit rest) :
      TermReading position (digits ++ rest) (.error ⟨position, .boundedInteger⟩)
  | largeFaces {count faces rest : List Char} (countRun : BoundedRun count)
      (run : LargeRun faces) (ends : RunEnds Char.isDigit rest) :
      TermReading position (count ++ 'd' :: (faces ++ rest))
        (.error ⟨position + count.length + 1, .boundedInteger⟩)

/-- The reader comes to what the relation says. -/
theorem TermReading.readTerm_eq {position : Nat} {text : List Char}
    {result : Except SyntaxFault (Term × Nat)} (reading : TermReading position text result) :
    readTerm position text = result := by
  cases reading with
  | word spelling stops =>
      cases spelling with
      | literal run =>
          rw [readTerm, (TermSpan.Front.integer run.toDigitRun stops.1 stops.2).ofText?_eq]
          simp only [TermSpan.toTerm, run.boundedValue?, TermSpan.length]
      | @roll count faces countRun facesRun =>
          rw [readTerm, List.append_assoc, List.cons_append,
            (TermSpan.Front.roll countRun.toDigitRun facesRun.toDigitRun stops).ofText?_eq]
          simp only [TermSpan.toTerm, countRun.boundedValue?, facesRun.boundedValue?,
            TermSpan.length, List.length_append, List.length_cons]
          congr 2
          omega
      | identifier start =>
          rw [readTerm, (TermSpan.Front.identifier start stops).ofText?_eq]
          rfl
  | missing ends => rw [readTerm, (TermSpan.Front.missing ends).ofText?_eq]
  | largeNumber run ends =>
      -- A number of its own and a count are both checked where they begin.
      rcases TermSpan.front_of_digits run.toDigitRun ends with front | ⟨faces, front⟩
      · rw [readTerm, front.ofText?_eq]
        simp only [TermSpan.toTerm, run.boundedValue?]
      · rw [readTerm, front.ofText?_eq]
        simp only [TermSpan.toTerm, run.boundedValue?]
  | largeFaces countRun run ends =>
      rw [readTerm,
        (TermSpan.Front.roll countRun.toDigitRun run.toDigitRun ends).ofText?_eq]
      simp only [TermSpan.toTerm, countRun.boundedValue?, run.boundedValue?]

/-- What reading a term comes to is always one of the cases of the relation. -/
theorem termReading_readTerm (position : Nat) (text : List Char) :
    TermReading position text (readTerm position text) := by
  suffices ∃ result, TermReading position text result by
    obtain ⟨result, reading⟩ := this
    rwa [reading.readTerm_eq]
  obtain ⟨span, front⟩ := TermSpan.exists_front text
  cases front with
  | @roll count faces rest countRun facesRun ends =>
      rcases countRun.bounded_or_large with count64 | large
      · rcases facesRun.bounded_or_large with faces64 | large
        · have reading : TermReading position ((count ++ 'd' :: faces) ++ rest) _ :=
            .word (.roll count64 faces64) ends
          rw [List.append_assoc, List.cons_append] at reading
          exact ⟨_, reading⟩
        · exact ⟨_, .largeFaces count64 large ends⟩
      · exact ⟨_, .largeNumber large (runEnds_cons.2 (by decide))⟩
  | integer run ends noFaces =>
      rcases run.bounded_or_large with small | large
      · exact ⟨_, .word (.literal small) ⟨ends, noFaces⟩⟩
      · exact ⟨_, .largeNumber large ends⟩
  | identifier start ends => exact ⟨_, .word (.identifier start) ends⟩
  | missing ends => exact ⟨_, .missing ends⟩

end Formula

end DiceFormula
