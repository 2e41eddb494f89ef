/-
# Splitting text

Text is split at a separator, which belongs to no piece; there is one piece more
than separators.  Line ends of all kinds become line feeds where a file is read.
-/

namespace DiceFormula.Text

def splitOn (separator : Char) : List Char → List (List Char)
  | [] => [[]]
  | c :: rest =>
    if c = separator then [] :: splitOn separator rest
    else
      match splitOn separator rest with
      | [] => [[c]]
      | piece :: others => (c :: piece) :: others

def lines (text : List Char) : List (List Char) :=
  splitOn '\n' text

/-- Carriage returns, alone or before a line feed, become line feeds. -/
def lineFeeds : List Char → List Char
  | '\r' :: '\n' :: rest => '\n' :: lineFeeds rest
  | '\r' :: rest => '\n' :: lineFeeds rest
  | c :: rest => c :: lineFeeds rest
  | [] => []

/-- The pieces are those that the splitting of lists yields. -/
theorem splitOn_eq (separator : Char) (text : List Char) :
    splitOn separator text = text.splitOn separator := by
  induction text with
  | nil => rfl
  | cons c rest ih =>
    rw [splitOn, List.splitOn_cons_eq_if_modifyHead, ih]
    simp only [beq_iff_eq]
    split
    · rfl
    · split
      · next none => exact absurd none (List.splitOn_ne_nil separator rest)
      · next some => rw [some, List.modifyHead_cons]

end DiceFormula.Text
