/-! # A place in a YAML text

The characters that are left, with the line and the column reached. Line ends have been made one
before, so a line feed, and three characters of Unicode that count as line ends here, are all there
are. -/

namespace Scenario.Yaml

/-- What is left of a text, and the place reached. -/
structure Cursor where
  rest : List Char
  index : Nat := 0
  line : Nat := 0
  column : Nat := 0
deriving Repr

/-- The mark that may stand in front of a text; it has no width. -/
def byteOrderMark : Char := Char.ofNat 0xFEFF

/-- The character for the next line. -/
def nextLine : Char := Char.ofNat 0x85

/-- Whether a character ends a line. -/
def isBreak (c : Char) : Bool :=
  c = '\n' || c = nextLine || c.toNat = 0x2028 || c.toNat = 0x2029

/-- Whether a line, or the text, ends here. -/
def isBreakOrEnd : Option Char → Bool
  | none => true
  | some c => isBreak c

/-- Whether a blank, a line end or the end of the text is here. -/
def isBlankOrEnd : Option Char → Bool
  | none => true
  | some c => c = ' ' || c = '\t' || isBreak c

/-- Whether a space, a line end or the end of the text is here; a tabulator does not count. -/
def isSpaceOrEnd : Option Char → Bool
  | none => true
  | some c => c = ' ' || isBreak c

/-- Whether a character may be in the name of an anchor, a directive or a handle. -/
def isWord (c : Char) : Bool := c.isAlphanum || c = '-' || c = '_'

/-- Whether a character may be in a text at all. -/
def isAllowed (c : Char) : Bool :=
  let n := c.toNat
  n = 0x09 || n = 0x0a || n = 0x0d || (0x20 ≤ n && n ≤ 0x7e) || n = 0x85 ||
    (0xa0 ≤ n && n ≤ 0xd7ff) || (0xe000 ≤ n && n ≤ 0xfffd) || 0x10000 ≤ n

namespace Cursor

/-- The next character. -/
def peek (c : Cursor) : Option Char := c.rest.head?

/-- The character after `n` others. -/
def peekAt (c : Cursor) (n : Nat) : Option Char := c.rest[n]?

/-- The place after the next character. -/
def advance (c : Cursor) : Cursor :=
  match c.rest with
  | [] => c
  | x :: rest =>
    if isBreak x then { rest, index := c.index + 1, line := c.line + 1, column := 0 }
    else
      { c with
        rest
        index := c.index + 1
        column := if x = byteOrderMark then c.column else c.column + 1 }

/-- The place after the next `n` characters. -/
def advanceBy (c : Cursor) : Nat → Cursor
  | 0 => c
  | n + 1 => c.advance.advanceBy n

/-- The characters from here on that have a property, and the place after them. -/
def span (c : Cursor) (p : Char → Bool) : List Char × Cursor :=
  let taken := c.rest.takeWhile p
  (taken, c.advanceBy taken.length)

/-- The place after the characters that have a property. -/
def skip (c : Cursor) (p : Char → Bool) : Cursor := (c.span p).2

/-- The line end here, if there is one, and the place after it: the line ends that are told apart
stand for themselves, the others for a line feed. -/
def lineBreak (c : Cursor) : List Char × Cursor :=
  match c.peek with
  | some x =>
    if x = '\n' ∨ x = nextLine then (['\n'], c.advance)
    else if isBreak x then ([x], c.advance)
    else ([], c)
  | none => ([], c)

/-- The place after the rest of a line, its end not included. -/
def skipLine (c : Cursor) : Cursor := c.skip fun x => !isBreak x

/-- The place after spaces and a comment. -/
def skipComment (c : Cursor) : Cursor :=
  let c := c.skip (· = ' ')
  if c.peek = some '#' then c.skipLine else c

/-- Whether three given characters stand here, with a blank or the end after them. -/
def atMarker (c : Cursor) (x : Char) : Bool :=
  c.rest.take 3 == [x, x, x] && isBlankOrEnd (c.peekAt 3)

/-- Whether a line that parts documents begins here. -/
def atSeparator (c : Cursor) : Bool := c.atMarker '-' || c.atMarker '.'

end Cursor

end Scenario.Yaml
