/-
# Fixed words

Words that a text may begin with, such as the names of truth values.
-/

namespace DiceFormula.Text

/-- What follows a word at the front of a text, `none` if the text begins otherwise. -/
def dropWord? (word text : List Char) : Option (List Char) :=
  if word.isPrefixOf text then some (text.drop word.length) else none

end DiceFormula.Text
