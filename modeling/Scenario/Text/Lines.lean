/-! # Lines of a text

The three line ends of files are made one, and places in a text are counted in lines and columns. -/

namespace Scenario.Text

/-- A carriage return, alone or before a line feed, becomes a line feed. -/
def unifyLineEnds : List Char → List Char
  | [] => []
  | '\r' :: '\n' :: rest => '\n' :: unifyLineEnds rest
  | c :: rest => (if c = '\r' then '\n' else c) :: unifyLineEnds rest

/-- A place in a text: lines and columns count from one, the offset from zero. -/
structure Place where
  line : Nat
  column : Nat
  offset : Nat
deriving DecidableEq, Repr

/-- The place after a given piece of text. -/
def Place.after (passed : List Char) : Place :=
  { line := passed.count '\n' + 1
    column := (passed.reverse.takeWhile (· ≠ '\n')).length + 1
    offset := passed.length }

/-- The text of a place. -/
def Place.text (p : Place) : String := s!"line {p.line} column {p.column} (char {p.offset})"

end Scenario.Text
