/-
# Wrapping a text loses nothing but space

A text that is too long for a line is broken between words, space may be dropped where a line
ends, and tabs are replaced by space.  Whatever the width is, the characters that are not blank
all stay, in their order; so a text that is displayed can be read off the lines it takes up.
-/

import DiceFormula.Text.Wrapping

namespace DiceFormula.Text

/-- What can be seen of a text: its characters that are not blank. -/
def visible (text : List Char) : List Char :=
  text.filter (!isBlank ·)

theorem visible_append (front back : List Char) :
    visible (front ++ back) = visible front ++ visible back :=
  List.filter_append front back

/-- A word has nothing that cannot be seen. -/
theorem visible_eq_self {text : List Char} (noBlank : ∀ c ∈ text, isBlank c = false) :
    visible text = text := by
  refine List.filter_eq_self.2 fun c member => ?_
  rw [noBlank c member, Bool.not_false]

/-- There is nothing to see of blanks. -/
theorem visible_eq_nil {text : List Char} (blank : ∀ c ∈ text, isBlank c = true) :
    visible text = [] := by
  refine List.filter_eq_nil_iff.2 fun c member => ?_
  simp [blank c member]

theorem visible_replicate_space (count : Nat) : visible (List.replicate count ' ') = [] := by
  refine visible_eq_nil fun c member => ?_
  rw [List.eq_of_mem_replicate member]
  rfl

theorem visible_expandTabsFrom (column : Nat) (line : List Char) :
    visible (expandTabsFrom column line) = visible line := by
  induction line generalizing column with
  | nil => rfl
  | cons c rest ih =>
      by_cases tab : c = '\t'
      · subst tab
        rw [expandTabsFrom, visible_append, visible_replicate_space, ih]
        rfl
      · rw [expandTabsFrom]
        · simp only [visible, List.filter_cons] at ih ⊢
          rw [ih]
        · exact tab

/-- Behind the blanks at its front a line with no word has nothing. -/
theorem dropWhile_isBlank_eq_nil {line : List Char}
    (noWord : ((line.dropWhile isBlank).takeWhile (!isBlank ·)).isEmpty = true) :
    line.dropWhile isBlank = [] := by
  cases behind : line.dropWhile isBlank with
  | nil => rfl
  | cons c rest =>
      have notBlank := List.head?_dropWhile_not isBlank line
      rw [behind] at notBlank noWord
      simp [show isBlank c = false from notBlank] at noWord

/-- The words of a line with the space around them are the line. -/
theorem flatten_words (line : List Char) : (words line).flatten = line := by
  fun_induction words line with
  | case1 line lead body noWord noSpace =>
      have split := List.takeWhile_append_dropWhile (p := isBlank) (l := line)
      have none : line.takeWhile isBlank = [] := List.isEmpty_iff.1 noSpace
      rw [dropWhile_isBlank_eq_nil noWord, none] at split
      exact split
  | case2 line lead body noWord space =>
      have split := List.takeWhile_append_dropWhile (p := isBlank) (l := line)
      rw [dropWhile_isBlank_eq_nil noWord, List.append_nil] at split
      rw [List.flatten_singleton]
      exact split
  | case3 line lead body rest tail hasWord ih =>
      rw [List.flatten_cons, ih, List.append_assoc, List.takeWhile_append_dropWhile,
        List.append_assoc, List.takeWhile_append_dropWhile, List.takeWhile_append_dropWhile]

/-- The pieces of a word are the word. -/
theorem flatten_foldWord (width room : Nat) (word : List Char) :
    (foldWord width room word).flatten = word := by
  induction word generalizing room with
  | nil => rfl
  | cons c rest ih =>
      simp only [foldWord]
      by_cases full : room < charColumns c
      · have folded := ih (width - charColumns c)
        rw [if_pos full]
        rcases pieces : foldWord width (width - charColumns c) rest with _ | ⟨line, others⟩
        · rw [pieces] at folded
          exact congrArg (c :: ·) folded
        · rw [pieces] at folded
          exact congrArg (c :: ·) folded
      · have folded := ih (room - charColumns c)
        rw [if_neg full]
        rcases pieces : foldWord width (room - charColumns c) rest with _ | ⟨line, others⟩
        · rw [pieces] at folded
          exact congrArg (c :: ·) folded
        · rw [pieces] at folded
          exact congrArg (c :: ·) folded

theorem flatten_dropLast_append (pieces : List (List Char)) :
    pieces.dropLast.flatten ++ pieces.getLast?.getD [] = pieces.flatten := by
  rcases List.eq_nil_or_concat pieces with rfl | ⟨front, last, rfl⟩
  · rfl
  · simp

/-- All the words are placed on some line. -/
theorem flatten_fillLines (width used : Nat) (begun : List Char) (words : List (List Char)) :
    (fillLines width used begun words).flatten = begun.reverse ++ words.flatten := by
  induction words generalizing used begun with
  | nil => simp [fillLines]
  | cons word rest ih =>
      simp only [fillLines]
      by_cases fits : used + columns (withoutTail word) ≤ width
      · rw [if_pos fits, ih, List.reverse_append, List.reverse_reverse, List.append_assoc,
          List.flatten_cons]
      · rw [if_neg fits]
        by_cases tooWide : width < columns (withoutTail word)
        · have done : (if begun.isEmpty = true then (foldWord width width word).dropLast
              else begun.reverse :: (foldWord width width word).dropLast).flatten =
              begun.reverse ++ (foldWord width width word).dropLast.flatten := by
            cases begun with
            | nil => rfl
            | cons c others => rfl
          rw [if_pos tooWide, List.flatten_append, done, ih, List.reverse_reverse,
            List.append_assoc, ← List.append_assoc _ _ rest.flatten, flatten_dropLast_append,
            flatten_foldWord, List.flatten_cons]
        · rw [if_neg tooWide, List.flatten_cons, ih, List.reverse_reverse, List.flatten_cons]

/-- A line is what is left without the blanks at its end, and these. -/
theorem exists_tail (line : List Char) :
    ∃ tail, line = withoutTail line ++ tail ∧ ∀ c ∈ tail, isBlank c = true := by
  have split := List.takeWhile_append_dropWhile (p := isBlank) (l := line.reverse)
  refine ⟨(line.reverse.takeWhile isBlank).reverse, ?_, fun c member => ?_⟩
  · rw [withoutTail, ← List.reverse_append, split, List.reverse_reverse]
  · exact List.all_eq_true.1 List.all_takeWhile c (List.mem_reverse.1 member)

theorem visible_dropExcess (width : Nat) (line : List Char) :
    visible (dropExcess width line) = visible line := by
  obtain ⟨tail, whole, blank⟩ := exists_tail line
  have length : line.length = (withoutTail line).length + tail.length := by
    rw [← List.length_append, ← whole]
  -- No more is taken off than the blanks at the end.
  obtain ⟨kept, same⟩ : ∃ kept, dropExcess width line = withoutTail line ++ tail.take kept := by
    refine ⟨tail.length - min tail.length (line.length - width), ?_⟩
    have excess : line.length - (withoutTail line).length = tail.length := by omega
    rw [dropExcess, excess, congrArg (List.take _) whole, List.take_append,
      List.take_of_length_le (by omega)]
    congr 2
    omega
  have stillBlank : ∀ c ∈ tail.take kept, isBlank c = true := fun c member =>
    blank c (List.mem_of_mem_take member)
  rw [same, congrArg visible whole, visible_append, visible_append, visible_eq_nil stillBlank,
    visible_eq_nil blank]

/-- Line by line all that can be seen stays. -/
theorem visible_wrapLine (width : Nat) (line : List Char) :
    (wrapLine width line).flatMap visible = visible line := by
  have kept : visible (expandTabs line) = visible line := visible_expandTabsFrom 0 line
  have lines (filled : List (List Char)) :
      (filled.map (dropExcess width)).flatMap visible = visible filled.flatten := by
    rw [List.flatMap_map, visible, List.filter_flatten, List.flatMap_def]
    simp only [visible_dropExcess]
    rfl
  simp only [wrapLine, lines]
  by_cases fits : columns (expandTabs line) ≤ width
  · rw [if_pos fits, List.flatten_singleton, kept]
  · rw [if_neg fits, flatten_fillLines, flatten_words, List.reverse_nil, List.nil_append, kept]

theorem flatMap_visible_lines (text : List Char) :
    (lines text).flatMap visible = visible text := by
  rw [lines]
  induction text with
  | nil => rfl
  | cons c rest ih =>
      rw [splitOn]
      by_cases lineFeed : c = '\n'
      · subst lineFeed
        rw [if_pos rfl, List.flatMap_cons, ih]
        rfl
      · rw [if_neg lineFeed]
        rcases pieces : (splitOn '\n' rest) with _ | ⟨piece, others⟩
        · rw [pieces, List.flatMap_nil] at ih
          change [[c]].flatMap visible = visible ([c] ++ rest)
          rw [List.flatMap_singleton, visible_append, ← ih, List.append_nil]
        · rw [pieces, List.flatMap_cons] at ih
          change visible ([c] ++ piece) ++ others.flatMap visible = visible ([c] ++ rest)
          rw [visible_append, visible_append, List.append_assoc, ih]

/-- Wrapped to any width a text shows all its characters that are not blank, but for controls
that are never passed on. -/
theorem visible_wrap (width : Nat) (text : List Char) :
    (wrap width text).flatMap visible = visible (withoutControls text) := by
  rw [wrap, List.flatMap_assoc, ← flatMap_visible_lines]
  simp only [visible_wrapLine]

/-- Wrapping puts nothing on the lines that can be seen. -/
theorem mem_of_mem_wrap {width : Nat} {text line : List Char} {c : Char}
    (isLine : line ∈ wrap width text) (member : c ∈ line) (notBlank : isBlank c = false) :
    c ∈ text := by
  have seen : c ∈ (wrap width text).flatMap visible := by
    refine List.mem_flatMap.2 ⟨line, isLine, List.mem_filter.2 ⟨member, ?_⟩⟩
    rw [notBlank, Bool.not_false]
  rw [visible_wrap] at seen
  exact (List.mem_filter.1 (List.mem_filter.1 seen).1).1

end DiceFormula.Text
