import Scenario.Toml.Table
import Scenario.Toml.Value

/-! # TOML documents

A text is read line by line; each line is a statement that adds to what the lines before it made. -/

namespace Scenario.Toml

/-- Whether a character may be in a key without quotes. -/
def isKeyChar (c : Char) : Bool := c.isAlphanum || c = '-' || c = '_'

/-- A part of a key. -/
def keyPart (cs : List Char) : Option (String × List Char) :=
  match cs.takeWhile isKeyChar with
  | [] => lineText cs
  | word => some (String.ofList word, cs.dropWhile isKeyChar)

/-- A key, with the blanks after it. -/
def key : Nat → List Char → Option (Key × List Char)
  | 0, _ => none
  | fuel + 1, cs => do
    let (part, rest) ← keyPart cs
    match skipBlanks rest with
    | '.' :: rest =>
      let (parts, rest) ← key fuel (skipBlanks rest)
      return (part :: parts, rest)
    | rest => return ([part], rest)

/-- A key up to the characters after its equals sign. -/
def assignment (cs : List Char) : Option (Key × List Char) := do
  let (k, rest) ← key (cs.length + 1) cs
  match rest with
  | '=' :: rest => return (k, skipBlanks rest)
  | _ => none

mutual

/-- A value. -/
def value : Nat → List Char → Except Fault (Value × List Char)
  | 0, _ => .error .malformed
  | fuel + 1, cs =>
    match cs with
    | '"' :: _ | '\'' :: _ => (fun p => (.text p.1, p.2)) <$> expect (text cs)
    | 't' :: 'r' :: 'u' :: 'e' :: rest => .ok (.bool true, rest)
    | 'f' :: 'a' :: 'l' :: 's' :: 'e' :: rest => .ok (.bool false, rest)
    | '[' :: rest => do
      let (items, rest) ← arrayItems fuel rest
      return (.list items, rest)
    | '\x7b' :: rest =>
      match skipBlanks rest with
      | '\x7d' :: rest => .ok (.map [], rest)
      | rest => do
        let (entries, rest) ← inlineEntries fuel [] [] rest
        return (.map entries, rest)
    | _ => scalar cs

/-- The items of an array up to its closing bracket; a comma may stand after the last. -/
def arrayItems : Nat → List Char → Except Fault (List Value × List Char)
  | 0, _ => .error .malformed
  | fuel + 1, cs => do
    match ← expect (skipSpace (cs.length + 1) cs) with
    | ']' :: rest => return ([], rest)
    | rest =>
      let (v, rest) ← value fuel rest
      match ← expect (skipSpace (rest.length + 1) rest) with
      | ']' :: rest => return ([v], rest)
      | ',' :: rest =>
        let (vs, rest) ← arrayItems fuel rest
        return (v :: vs, rest)
      | _ => .error .malformed

/-- The entries of a table inside a line up to its closing brace; the table so far is `t`. -/
def inlineEntries : Nat → List Key → Table → List Char → Except Fault (Table × List Char)
  | 0, _, _, _ => .error .malformed
  | fuel + 1, closed, t, cs => do
    let (k, rest) ← expect (assignment cs)
    let (v, rest) ← value fuel rest
    let t ← expect (addInline closed k v t)
    match skipBlanks rest with
    | '\x7d' :: rest => return (t, rest)
    | ',' :: rest =>
      inlineEntries fuel (if isClosed v then k :: closed else closed) t (skipBlanks rest)
    | _ => .error .malformed

end

/-- The line that opens a table or a table of an array. -/
def header (cs : List Char) : Option (Statement × List Char) :=
  match cs with
  | '[' :: '[' :: rest => do
    let (k, rest) ← key (cs.length + 1) (skipBlanks rest)
    match rest with
    | ']' :: ']' :: rest => return (.arrayTable k, rest)
    | _ => none
  | '[' :: rest => do
    let (k, rest) ← key (cs.length + 1) (skipBlanks rest)
    match rest with
    | ']' :: rest => return (.table k, rest)
    | _ => none
  | _ => none

/-- A line that is not empty, without the comment after it. -/
def statement (cs : List Char) : Except Fault (Statement × List Char) :=
  if cs.head? = some '[' then expect (header cs)
  else do
    let (k, rest) ← expect (assignment cs)
    let (v, rest) ← value (2 * rest.length + 2) rest
    return (.entry k v, rest)

/-- The end of a line after a statement, with a comment in front of it. -/
def lineEnd (cs : List Char) : Option (List Char) := do
  match ← skipComment (skipBlanks cs) with
  | [] => some []
  | '\n' :: rest => some rest
  | _ => none

/-- What the lines that are left make of a document. -/
def addLines : Nat → Document → List Char → Except Fault Document
  | 0, _, _ => .error .malformed
  | fuel + 1, d, cs =>
    match skipBlanks cs with
    | [] => .ok d
    | '\n' :: rest => addLines fuel d rest
    | '#' :: rest => do addLines fuel d (← expect (lineEnd ('#' :: rest)))
    | rest => do
      let (s, rest) ← statement rest
      let d ← expect (d.add s)
      addLines fuel d (← expect (lineEnd rest))

/-- The table that a text denotes, if it is a document. -/
def load (text : List Char) : Except Fault Table := do
  return (← addLines (text.length + 1) {} text).root

end Scenario.Toml
