/-! # Paths of files

A path is kept in its normal form: the text of a path is read by dropping empty parts and parts
that mean the directory itself. Exactly two leading slashes are a root of their own. -/

namespace Scenario

/-- Where a path starts. -/
inductive PathRoot where
  | relative
  | single
  | double
deriving DecidableEq, Repr

/-- A path: its root and its parts from there. -/
structure Path where
  root : PathRoot
  parts : List String
deriving DecidableEq, Repr

namespace PathRoot

/-- The text of a root. -/
def text : PathRoot → String
  | .relative => ""
  | .single => "/"
  | .double => "//"

/-- The root that the leading slashes of a text mean. -/
def ofChars : List Char → PathRoot
  | '/' :: '/' :: '/' :: _ => .single
  | '/' :: '/' :: _ => .double
  | '/' :: _ => .single
  | _ => .relative

end PathRoot

namespace Path

/-- Whether a piece between slashes is a part of the path. -/
def isPart (piece : List Char) : Bool := piece != [] && piece != ['.']

/-- The path that a text means. -/
def ofText (s : String) : Path :=
  { root := .ofChars s.toList
    parts := ((s.toList.splitOn '/').filter isPart).map String.ofList }

/-- The normal text of a path. -/
def text (p : Path) : String :=
  if p.root = .relative ∧ p.parts = [] then "."
  else p.root.text ++ "/".intercalate p.parts

/-- The last part. -/
def name (p : Path) : String := p.parts.getLast?.getD ""

/-- The last dot of a name and what follows it, unless the dot is the first or the last
character. -/
def suffix (p : Path) : String :=
  let cs := p.name.toList
  let tail := (cs.reverse.takeWhile (· ≠ '.')).reverse
  if tail.length + 1 < cs.length ∧ tail ≠ [] then String.ofList ('.' :: tail) else ""

/-- The path of a file in the directory `p`. -/
def child (p : Path) (name : String) : Path := { p with parts := p.parts ++ [name] }

end Path

end Scenario
