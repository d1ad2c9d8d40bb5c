import Scenario.Value

/-! # Tables of a TOML document

Tables are nested; a key names the way to a value. What a document has written in one piece, an
array or a table inside a line, cannot be changed from outside, and a table is opened once only. -/

namespace Scenario.Toml

/-- The parts of a key between dots. -/
abbrev Key := List String

/-- The entries of a table. -/
abbrev Table := List (Value × Value)

/-- Changes the table at the end of a way; tables that are missing are made on the way. If
`throughArrays`, the last table of an array stands for the array. -/
def modifyAt (throughArrays : Bool) (change : Table → Option Table) : Key → Table → Option Table
  | [], t => change t
  | k :: rest, t =>
    match Value.field? k t with
    | none =>
      (modifyAt throughArrays change rest []).map fun inner => Value.put (.text k) (.map inner) t
    | some (.map inner) =>
      (modifyAt throughArrays change rest inner).map fun inner => Value.put (.text k) (.map inner) t
    | some (.list items) =>
      if throughArrays then
        match items.reverse with
        | .map inner :: others =>
          (modifyAt throughArrays change rest inner).map fun inner =>
            Value.put (.text k) (.list (.map inner :: others).reverse) t
        | _ => none
      else none
    | some _ => none

/-- Adds a value under a name that is free. -/
def addEntry (name : String) (v : Value) (t : Table) : Option Table :=
  match Value.field? name t with
  | some _ => none
  | none => some (t ++ [(.text name, v)])

/-- Adds an empty table to the array of tables under a name. -/
def addToArray (name : String) (t : Table) : Option Table :=
  match Value.field? name t with
  | none => some (t ++ [(.text name, .list [.map []])])
  | some (.list items) => some (Value.put (.text name) (.list (items ++ [.map []])) t)
  | some _ => none

/-- Whether a value is written in one piece, so that nothing can be added to it. -/
def isClosed : Value → Bool
  | .map _ | .list _ => true
  | _ => false

/-- Whether a key lies at or below one of some keys. -/
def isUnder (keys : List Key) (k : Key) : Bool := keys.any (·.isPrefixOf k)

/-- Adds a value to a table inside a line. `closed` are the keys of the values before it that are
written in one piece. -/
def addInline (closed : List Key) (k : Key) (v : Value) (t : Table) : Option Table :=
  match k.getLast? with
  | none => none
  | some name =>
    if isUnder closed k then none else modifyAt false (addEntry name v) k.dropLast t

/-- A line of a document. -/
inductive Statement where
  | entry (key : Key) (v : Value)
  /-- The lines that follow belong to this table. -/
  | table (key : Key)
  /-- The lines that follow belong to a new table at the end of this array. -/
  | arrayTable (key : Key)

/-- What the lines so far have made. -/
structure Document where
  root : Table := []
  /-- The table that lines belong to. -/
  header : Key := []
  /-- Tables that cannot be opened again. -/
  opened : List Key := []
  /-- Tables made by keys with dots since the last table was opened. -/
  pending : List Key := []
  /-- Values written in one piece. -/
  closed : List Key := []

namespace Document

/-- The tables on the way of a key with dots. -/
def onTheWay (header k : Key) : List Key :=
  (List.range (k.length - 1)).map fun i => header ++ k.take (i + 1)

/-- Adds the value of a line. -/
def addEntry (d : Document) (k : Key) (v : Value) : Option Document := do
  let name ← k.getLast?
  let tables := onTheWay d.header k
  let parent := d.header ++ k.dropLast
  if tables.any d.opened.contains || isUnder d.closed parent then none
  else
    let root ← modifyAt true (Toml.addEntry name v) parent d.root
    return { d with
      root
      pending := d.pending ++ tables
      closed := if isClosed v then (d.header ++ k) :: d.closed else d.closed }

/-- A line that opens a table makes the tables made by keys with dots final. -/
def settle (d : Document) : Document := { d with opened := d.opened ++ d.pending, pending := [] }

/-- Opens a table. -/
def openTable (d : Document) (k : Key) : Option Document :=
  let d := d.settle
  if d.opened.contains k || isUnder d.closed k then none
  else (modifyAt true some k d.root).map fun root =>
    { d with root, header := k, opened := k :: d.opened }

/-- Opens a new table of an array; what was said of the one before it is forgotten. -/
def openArrayTable (d : Document) (k : Key) : Option Document := do
  let d := d.settle
  let name ← k.getLast?
  if isUnder d.closed k then none
  else
    let root ← modifyAt true (addToArray name) k.dropLast d.root
    return { d with
      root
      header := k
      opened := k :: d.opened.filter fun o => !k.isPrefixOf o
      closed := d.closed.filter fun c => !k.isPrefixOf c }

/-- The document with a line more. -/
def add (d : Document) : Statement → Option Document
  | .entry k v => d.addEntry k v
  | .table k => d.openTable k
  | .arrayTable k => d.openArrayTable k

end Document

end Scenario.Toml
