/-! # White space -/

namespace Scenario.Text

/-- Whether Unicode counts a character as white space. -/
def isWhiteSpace (c : Char) : Bool :=
  (0x09 ≤ c.toNat && c.toNat ≤ 0x0d) ||
    [0x20, 0x85, 0xa0, 0x1680, 0x2028, 0x2029, 0x202f, 0x205f, 0x3000].contains c.toNat ||
    (0x2000 ≤ c.toNat && c.toNat ≤ 0x200a)

/-- Whether a character parts words: white space, or one of the four separators of information. -/
def isSpacing (c : Char) : Bool := isWhiteSpace c || (0x1c ≤ c.toNat && c.toNat ≤ 0x1f)

/-- White space parts words. -/
theorem isSpacing_of_isWhiteSpace {c : Char} (h : isWhiteSpace c = true) : isSpacing c = true := by
  simp [isSpacing, h]

/-- A text without white space at either end. -/
def trim (cs : List Char) : List Char :=
  ((cs.dropWhile isWhiteSpace).reverse.dropWhile isWhiteSpace).reverse

end Scenario.Text
