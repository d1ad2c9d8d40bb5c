import Scenario.Block.Kind
import Scenario.Specification.Listing
import Scenario.Text.CellWidth
import Scenario.Text.CodePoint

/-! # What is shown on a terminal

Texts are shown without their marks of style and without characters that ring, move back or tear the
page, and with tabulators widened to columns of eight. Trees have guides in front of their lines,
tables have frames. What is shown may still have halves among its code points, which no channel
takes as they are. -/

namespace Scenario.Terminal

/-- The width of the columns that a tabulator goes on to. -/
def tabWidth : Nat := 8

/-- Whether a character is left out: bell, backspace, vertical tabulator, form feed, carriage
return. -/
def isDropped (c : Char) : Bool := [7, 8, 11, 12, 13].contains c.toNat

/-- A line whose parts between tabulators are given, from a column on: every part is followed by a
blank and goes on to the next column of a tabulator. -/
def expandTabs (column : Nat) : List (List Char) → List Char
  | [] => []
  | [part] => part
  | part :: rest =>
    let reached := column + Text.cells (part ++ [' '])
    let width := (tabWidth - reached % tabWidth) % tabWidth
    part ++ ' ' :: (List.replicate width ' ' ++ expandTabs (reached + width) rest)

/-- The lines of a text as they are shown. -/
def shownLines (s : String) : List String :=
  (((Text.Markup.plain s).filter (!isDropped ·)).splitOn '\n').map fun line =>
    String.ofList (expandTabs 0 (line.splitOn '\t'))

/-- A text as it is shown, with a line end. -/
def showText (s : String) : String := String.join ((shownLines s).map (· ++ "\n"))

/-! ## Trees -/

/-- The guide in front of the first line of a child. -/
def branch (isLast : Bool) : String := if isLast then "└── " else "├── "

/-- The guide in front of the further lines of a child. -/
def trunk (isLast : Bool) : String := if isLast then "    " else "│   "

/-- Lines, the first with one guide and the others with another. -/
def guided (first others : String) : List String → List String
  | [] => []
  | line :: rest => (first ++ line) :: rest.map (others ++ ·)

mutual

/-- The lines of a tree. -/
def treeLines : Listing → List String
  | .node label children => shownLines label ++ childLines children

/-- The lines of the children of a node. -/
def childLines : List Listing → List String
  | [] => []
  | child :: rest =>
    guided (branch rest.isEmpty) (trunk rest.isEmpty) (treeLines child) ++ childLines rest

end

/-- A tree as it is shown. -/
def showTree (t : Listing) : String := String.join ((treeLines t).map (· ++ "\n"))

mutual

/-- Whether the marks of all lines of a tree fit. -/
def marksFit : Listing → Bool
  | .node label children => Text.Markup.canShow label && childMarksFit children

/-- Whether the marks of all lines of the children of a node fit. -/
def childMarksFit : List Listing → Bool
  | [] => true
  | child :: rest => marksFit child && childMarksFit rest

end

/-- Whether a tree can be shown: its marks have to fit, and there may be no half left. -/
def canShowTree (t : Listing) : Bool := marksFit t && !Text.hasHalf (showTree t)

/-- Trees as they are shown, up to the first that cannot be. -/
def showTrees (ts : List Listing) : String :=
  String.join ((ts.takeWhile canShowTree).map fun t => Text.shown (showTree t))

/-! ## Tables -/

/-- The characters of one line of a frame: at the left end, along a cell, between cells, and at the
right end. -/
structure Rule where
  left : String
  along : String
  between : String
  right : String

/-- The line above the head. -/
def Rule.top : Rule := ⟨"┏", "━", "┳", "┓"⟩

/-- The line below the head. -/
def Rule.head : Rule := ⟨"┡", "━", "╇", "┩"⟩

/-- The line below the body. -/
def Rule.bottom : Rule := ⟨"└", "─", "┴", "┘"⟩

/-- The lines at the sides of the cells of the head, and of the body. -/
def headSide : String := "┃"

/-- The lines at the sides of the cells of the body. -/
def bodySide : String := "│"

/-- A text several times. -/
def repeated (n : Nat) (s : String) : String := String.join (List.replicate n s)

/-- A line of a frame over cells of given widths, with a blank on both sides of each. -/
def Rule.line (r : Rule) (widths : List Nat) : String :=
  r.left ++ r.between.intercalate (widths.map fun w => repeated (w + 2) r.along) ++ r.right

/-- A row of cells of given widths. -/
def rowLine (side : String) (widths : List Nat) (cells : List String) : String :=
  let padded := (widths.zip cells).map fun (w, cell) =>
    " " ++ cell ++ repeated (w - cell.length) " " ++ " "
  side ++ side.intercalate padded ++ side

/-- A text in the middle of a width; the blank that cannot be halved goes to the right. -/
def centered (width : Nat) (s : String) : String :=
  let left := (width - s.length) / 2
  repeated left " " ++ s ++ repeated (width - left - s.length) " "

/-- The widths of columns: each as wide as its widest cell. -/
def columnWidths (head : List String) (rows : List (List String)) : List Nat :=
  rows.foldl (fun widths row => (widths.zip row).map fun (w, cell) => max w cell.length)
    (head.map String.length)

/-- A table with a title in a frame. -/
def showTable (title : String) (head : List String) (rows : List (List String)) : String :=
  let widths := columnWidths head rows
  let total := widths.foldl (fun n w => n + w + 3) 1
  let lines := [centered total title, Rule.top.line widths, rowLine headSide widths head,
    Rule.head.line widths] ++ rows.map (rowLine bodySide widths) ++ [Rule.bottom.line widths]
  String.join (lines.map (· ++ "\n"))

/-- A kind of block as a row: its name, its label, and what may follow it. -/
def kindRow (k : BlockKind) : List String :=
  [k.name, k.label?.getD "-", ", ".intercalate k.successorLabels]

/-- The grammar of blocks as a table. -/
def grammarTable : String :=
  showTable "Block grammar" ["Block", "Label", "May be followed by"]
      ((BlockKind.all.filter (· ≠ .methodEnd)).map kindRow) ++
    showText s!"'{BlockKind.methodEnd.displayName}' marks the end of the method body."

end Scenario.Terminal
