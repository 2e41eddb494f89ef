/-
# Writing a formula and reading it again

Terms can be put together that no text is read as: numbers that do not fit into a word,
dice with fewer than no faces, names that begin with a digit.  The canonical text of a
formula can be read again whenever every term is regular or is a name that looks like a
number; the terms read are then the terms written, but for those names.

The words of a canonical text have no spaces, whatever the terms are, so a reading of the
text is a reading of each word.
-/

import DiceFormula.Proofs.DecimalSpelling
import DiceFormula.Proofs.Grammar

namespace DiceFormula

open Text

/-- A name written like a number or like dice. -/
def Name.LooksLikeNumber (name : Name) : Prop :=
  DigitRun name.chars ∨ ∃ count faces,
    name.chars = count ++ 'd' :: faces ∧ DigitRun count ∧ DigitRun faces

namespace Term

/-- The numbers of a term fit, and it is no name that begins with a digit. -/
def Regular : Term → Prop
  | roll count faces => count ≤ 2 ^ 63 - 1 ∧ 0 ≤ faces ∧ faces ≤ 2 ^ 63 - 1
  | literal value => value ≤ 2 ^ 63 - 1
  | identifier name => ∀ c ∈ name.chars.head?, c.isDigit = false

/-- An identifier is written like a number or like dice that fit, and is read as that. -/
inductive MisreadAs : Term → Term → Prop where
  | literal {name : Name} (run : BoundedRun name.chars) :
      MisreadAs (.identifier name) (.literal (digitsValue name.chars))
  | roll {name : Name} {count faces : List Char} (written : name.chars = count ++ 'd' :: faces)
      (countRun : BoundedRun count) (facesRun : BoundedRun faces) :
      MisreadAs (.identifier name) (.roll (digitsValue count) (digitsValue faces))

section Words

/-- What a name that looks like a number is read as is not the name. -/
theorem MisreadAs.ne {term read : Term} (misread : MisreadAs term read) : read ≠ term := by
  cases misread <;> exact Term.noConfusion

theorem MisreadAs.exists_name {term read : Term} (misread : MisreadAs term read) :
    ∃ name, term = .identifier name ∧ name.LooksLikeNumber := by
  cases misread with
  | literal run => exact ⟨_, rfl, .inl run.toDigitRun⟩
  | roll written countRun facesRun =>
      exact ⟨_, rfl, .inr ⟨_, _, written, countRun.toDigitRun, facesRun.toDigitRun⟩⟩

/-- A regular name does not look like a number. -/
theorem Regular.not_looksLikeNumber {name : Name} (regular : (identifier name).Regular) :
    ¬ name.LooksLikeNumber := by
  rintro (run | ⟨count, faces, written, countRun, -⟩)
  · exact run.not_start List.prefix_rfl regular
  · exact countRun.not_start (written ▸ List.prefix_append _ _) regular

/-- A regular term is read from its own word. -/
theorem Regular.spelling {term : Term} (regular : term.Regular) : Spelling term.chars term := by
  cases term with
  | literal value =>
      have spelling := Spelling.literal (boundedRun_natDigits_iff.2 regular)
      rwa [digitsValue_natDigits] at spelling
  | roll count faces =>
      obtain ⟨countSmall, facesRange⟩ := regular
      have facesRun := boundedRun_intDigits_iff.2 facesRange
      obtain ⟨n, rfl⟩ := Int.eq_ofNat_of_zero_le facesRange.1
      have spelling := Spelling.roll (boundedRun_natDigits_iff.2 countSmall) facesRun
      have facesValue : digitsValue (intDigits n) = n := digitsValue_natDigits n
      rwa [digitsValue_natDigits, facesValue] at spelling
  | identifier name => exact .identifier regular

/-- What a word is read as is regular. -/
theorem Spelling.regular {word : List Char} {term : Term} (spelling : Spelling word term) :
    term.Regular := by
  cases spelling with
  | literal run => exact run.value_le
  | roll countRun facesRun =>
      have small := facesRun.value_le
      exact ⟨countRun.value_le, Int.natCast_nonneg _, by omega⟩
  | identifier start => exact start

/-- The word of a term is read as the term, if it is regular, or as what it is misread as. -/
theorem spelling_chars_iff {term read : Term} :
    Spelling term.chars read ↔ (term.Regular ∧ read = term) ∨ MisreadAs term read := by
  constructor
  · intro spelling
    generalize written : term.chars = word at spelling
    cases spelling with
    | literal run =>
        subst written
        cases term with
        | literal value =>
            refine .inl ⟨boundedRun_natDigits_iff.1 run, ?_⟩
            rw [chars, digitsValue_natDigits]
        | roll count faces => exact absurd run.toDigitRun (not_digitRun_dice _ _)
        | identifier name => exact .inr (.literal run)
    | @roll count faces countRun facesRun =>
        cases term with
        | literal value =>
            refine absurd ?_ (not_digitRun_dice count faces)
            exact written ▸ digitRun_natDigits value
        | roll number sides =>
            obtain ⟨rfl, rfl⟩ :=
              (digitRun_natDigits number).dice_inj countRun.toDigitRun written
            have range := boundedRun_intDigits_iff.1 facesRun
            obtain ⟨n, rfl⟩ := Int.eq_ofNat_of_zero_le range.1
            have facesValue : digitsValue (intDigits n) = n := digitsValue_natDigits n
            refine .inl ⟨⟨boundedRun_natDigits_iff.1 countRun, range⟩, ?_⟩
            rw [digitsValue_natDigits, facesValue]
        | identifier name => exact .inr (.roll written countRun facesRun)
    | @identifier name start =>
        rw [← written] at start
        cases term with
        | literal value =>
            exact absurd start ((digitRun_natDigits value).not_start List.prefix_rfl)
        | roll count faces =>
            exact absurd start
              ((digitRun_natDigits count).not_start (List.prefix_append _ _))
        | identifier other =>
            obtain rfl : other = name := Name.ext_chars written
            exact .inl ⟨start, rfl⟩
  · rintro (⟨regular, rfl⟩ | misread)
    · exact regular.spelling
    · cases misread with
      | literal run => exact .literal run
      | roll written countRun facesRun =>
          rw [chars, written]
          exact .roll countRun facesRun

/-- No word of a term has a space. -/
theorem space_notMem_chars (term : Term) : ' ' ∉ term.chars := by
  have digits (n : Nat) : ' ' ∉ natDigits n := by
    intro member
    exact absurd (isDigit_of_mem_natDigits member) (by decide)
  cases term with
  | literal value => exact digits value
  | roll count faces =>
      cases faces with
      | ofNat n => simp [chars, intDigits, digits]
      | negSucc n => simp [chars, intDigits, digits]
  | identifier name =>
      intro member
      exact absurd (name.chars_allowed _ member) (by decide)

end Words

end Term

namespace Formula

/-- The canonical text of a formula as words. -/
def wording (formula : Formula) : Wording :=
  ⟨formula.first.chars, formula.steps.map fun step => (step.1, step.2.chars)⟩

@[simp]
theorem words_wording (formula : Formula) : formula.wording.words = formula.terms.map Term.chars := by
  simp [wording, Wording.words, terms]

@[simp]
theorem operators_wording (formula : Formula) : formula.wording.operators = formula.operators := by
  simp [wording, Wording.operators, operators]

@[simp]
theorem chars_wording (formula : Formula) : formula.wording.chars = formula.chars := by
  rw [wording, Wording.chars, chars, List.flatMap_map]
  rfl

theorem separated_wording (formula : Formula) : formula.wording.Separated := by
  intro word member
  rw [words_wording] at member
  obtain ⟨term, -, rfl⟩ := List.mem_map.1 member
  exact term.space_notMem_chars

/-- The formula with other terms between the same operators. -/
def mapTerms (change : Term → Term) (formula : Formula) : Formula :=
  ⟨change formula.first, formula.steps.map (Prod.map id change)⟩

@[simp]
theorem terms_mapTerms (change : Term → Term) (formula : Formula) :
    (formula.mapTerms change).terms = formula.terms.map change := by
  simp [mapTerms, terms]

@[simp]
theorem operators_mapTerms (change : Term → Term) (formula : Formula) :
    (formula.mapTerms change).operators = formula.operators := by
  simp [mapTerms, operators]

/-- What the canonical text is read as is what its words are read as. -/
theorem parse_text_iff_reads {formula other : Formula} :
    parse formula.text = .ok other ↔ formula.wording.Reads other := by
  have sameChars : parse formula.text = parseChars formula.chars := by
    rw [parse, text, String.toList_ofList]
  rw [sameChars, parseChars_eq_ok_iff]
  constructor
  · rintro ⟨wording, same, reads⟩
    rw [← chars_wording] at same
    rwa [← reads.separated.eq_of_chars_eq formula.separated_wording same]
  · intro reads
    exact ⟨formula.wording, formula.chars_wording, reads⟩

/-- What the canonical text is read as, term by term. -/
theorem parse_text_iff_forall₂ {formula other : Formula} :
    parse formula.text = .ok other ↔ other.operators = formula.operators ∧
      List.Forall₂ (fun term read => (term.Regular ∧ read = term) ∨ term.MisreadAs read)
        formula.terms other.terms := by
  rw [parse_text_iff_reads, Wording.reads_iff, operators_wording, words_wording,
    List.forall₂_map_left_iff, eq_comm (a := formula.operators)]
  simp only [Term.spelling_chars_iff]

/-- A formula that was read has regular terms. -/
theorem regular_of_parse {source : String} {formula : Formula}
    (accepted : parse source = .ok formula) : ∀ term ∈ formula.terms, term.Regular := by
  obtain ⟨wording, -, reads⟩ := parseChars_eq_ok_iff.1 accepted
  intro term member
  obtain ⟨word, spelling⟩ := reads.exists_spelling member
  exact spelling.regular

/-- The canonical text of a formula with regular terms is read as the formula. -/
theorem parse_text_of_regular {formula : Formula} (regular : ∀ term ∈ formula.terms, term.Regular) :
    parse formula.text = .ok formula := by
  rw [parse_text_iff_forall₂]
  refine ⟨rfl, List.forall₂_same.2 fun term member => ?_⟩
  exact .inl ⟨regular term member, rfl⟩

/-- The canonical text can be read if and only if every word can. -/
theorem exists_parse_text_iff {formula : Formula} :
    (∃ other, parse formula.text = .ok other) ↔
      ∀ term ∈ formula.terms, term.Regular ∨ ∃ read, term.MisreadAs read := by
  constructor
  · rintro ⟨other, readBack⟩ term member
    obtain ⟨-, wordByWord⟩ := parse_text_iff_forall₂.1 readBack
    obtain ⟨place, bound, rfl⟩ := List.getElem_of_mem member
    rcases wordByWord.get bound (wordByWord.length_eq ▸ bound) with ⟨regular, -⟩ | misread
    · exact .inl regular
    · exact .inr ⟨_, misread⟩
  · intro readable
    have spelled : ∀ term ∈ formula.terms, ∃ read, Term.Spelling term.chars read := by
      intro term member
      rcases readable term member with regular | ⟨read, misread⟩
      · exact ⟨term, regular.spelling⟩
      · exact ⟨read, Term.spelling_chars_iff.2 (.inr misread)⟩
    have : Nonempty Term := ⟨formula.first⟩
    choose! read spells using spelled
    refine ⟨formula.mapTerms read, ?_⟩
    rw [parse_text_iff_reads, Wording.reads_iff, operators_wording, words_wording,
      operators_mapTerms, terms_mapTerms, List.forall₂_map_left_iff, List.forall₂_map_right_iff,
      List.forall₂_same]
    exact ⟨rfl, spells⟩

/-- The canonical text of a formula is read as the formula if and only if its terms are
regular.  What it is read as otherwise has the same operators and differs exactly at the
names that look like numbers, each of them read as what it looks like; and it cannot be
read at all if there is a term that is neither regular nor such a name. -/
theorem parse_text (formula : Formula) :
    (parse formula.text = .ok formula ↔ ∀ term ∈ formula.terms, term.Regular) ∧
    (∀ other, parse formula.text = .ok other ↔ other.operators = formula.operators ∧
      List.Forall₂ (fun term read => (term.Regular ∧ read = term) ∨ term.MisreadAs read)
        formula.terms other.terms) ∧
    (∀ other, parse formula.text = .ok other →
      other.terms.length = formula.terms.length ∧ other.operators = formula.operators ∧
      ∀ (place : Nat) (bound : place < formula.terms.length) (bound' : place < other.terms.length),
        other.terms[place] ≠ formula.terms[place] ↔
          ∃ name, formula.terms[place] = .identifier name ∧ name.LooksLikeNumber) ∧
    ((∃ fault, parse formula.text = .error fault) ↔
      ∃ term ∈ formula.terms, ¬ term.Regular ∧ ¬ ∃ read, term.MisreadAs read) := by
  refine ⟨⟨fun readBack term member => ?_, parse_text_of_regular⟩,
    fun other => parse_text_iff_forall₂, fun other readBack => ?_, ?_⟩
  · obtain ⟨-, wordByWord⟩ := parse_text_iff_forall₂.1 readBack
    rcases List.forall₂_same.1 wordByWord term member with ⟨regular, -⟩ | misread
    · exact regular
    · exact absurd rfl misread.ne
  · obtain ⟨operators, wordByWord⟩ := parse_text_iff_forall₂.1 readBack
    refine ⟨wordByWord.length_eq.symm, operators, fun place bound bound' => ?_⟩
    rcases wordByWord.get bound bound' with ⟨regular, same⟩ | misread
    · constructor
      · exact fun different => absurd same different
      · rintro ⟨name, isName, looks⟩
        rw [List.get_eq_getElem, isName] at regular
        exact absurd looks regular.not_looksLikeNumber
    · exact ⟨fun _ => misread.exists_name, fun _ => misread.ne⟩
  · have unreadable : (∃ fault, parse formula.text = .error fault) ↔
        ¬ ∃ other, parse formula.text = .ok other := by
      cases parse formula.text <;> simp
    rw [unreadable, exists_parse_text_iff]
    push Not
    rfl

/-- The name of dice is read as the dice. -/
example :
    let name : Name := ⟨['3', 'd', '6'], List.cons_ne_nil _ _, List.all_eq_true.1 rfl⟩
    parse (text ⟨.identifier name, []⟩) = .ok ⟨.roll 3 6, []⟩ := by
  decide +kernel

end Formula

end DiceFormula
