import Scenario.Text.Space

/-! # Words of a text -/

namespace Scenario.Text

/-- The words of a text, of which the first has begun with the characters of `word`, last first. -/
def wordsFrom (word : List Char) : List Char → List (List Char)
  | [] => if word.isEmpty then [] else [word.reverse]
  | c :: rest =>
    if isSpacing c then
      if word.isEmpty then wordsFrom [] rest else word.reverse :: wordsFrom [] rest
    else wordsFrom (c :: word) rest

/-- The words of a text: what stands between characters that part words. -/
def words (cs : List Char) : List (List Char) := wordsFrom [] cs

/-- A text without characters that part words at either end. -/
def strip (cs : List Char) : List Char :=
  ((cs.dropWhile isSpacing).reverse.dropWhile isSpacing).reverse

/-- A text without characters has no words. -/
@[simp] theorem words_nil : words [] = [] := rfl

end Scenario.Text
