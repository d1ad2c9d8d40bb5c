import Scenario.Number.Digits
import Scenario.Text.CodePoint
import Scenario.Text.Utf8
import Scenario.Yaml.Cursor
import Scenario.Yaml.Token

/-! # The parts of YAML text that make one token

Names, tags, directives, and scalars in their five styles. Each reader begins at the first
character of its token and gives the place after it. -/

namespace Scenario.Yaml

open Text (CodePoint)

/-- The text breaks the rules of the format. -/
def malformed {α : Type} : Except Error α := .error .malformed

namespace Cursor

/-- The name after the sign of an anchor or an alias. -/
def anchorName (c : Cursor) : Except Error (String × Cursor) :=
  let (name, c) := c.advance.span isWord
  let ended := isBlankOrEnd c.peek || (c.peek.map "?:,]\x7d%@\x60".toList.contains).getD false
  if name.isEmpty || !ended then malformed else .ok (String.ofList name, c)

/-- Whether a character may be in a tag as it is. -/
def isTagChar (x : Char) : Bool :=
  x.isAlphanum || "-;/?:@&=+$,_.!~*'()[]".toList.contains x

/-- Two digits in base sixteen. -/
def hexByte? (a b : Char) : Option UInt8 := do
  let a ← Digits.ofHex? a
  let b ← Digits.ofHex? b
  return UInt8.ofNat (a * 16 + b)

/-- Bytes written as escapes, as many as follow each other. -/
def escapedBytes (fuel : Nat) (c : Cursor) : Except Error (List UInt8 × Cursor) :=
  match fuel, c.rest with
  | fuel + 1, '%' :: rest =>
    match rest with
    | a :: b :: _ =>
      match hexByte? a b with
      | some byte => do
        let (bytes, c) ← escapedBytes fuel (c.advanceBy 3)
        return (byte :: bytes, c)
      | none => malformed
    | _ => malformed
  | _, _ => .ok ([], c)

/-- The characters of a tag; escapes stand for the bytes of characters. -/
def tagChars (fuel : Nat) (c : Cursor) : Except Error (List Char × Cursor) :=
  match fuel with
  | 0 => .ok ([], c)
  | fuel + 1 =>
    let (plain, c) := c.span isTagChar
    if c.peek = some '%' then do
      let (bytes, c) ← escapedBytes fuel c
      match Text.Utf8.decode bytes with
      | .error _ => malformed
      | .ok chars =>
        let (more, c) ← tagChars fuel c
        return (plain ++ chars ++ more, c)
    else .ok (plain, c)

/-- The characters of a tag, of which there is at least one. -/
def tagUri (c : Cursor) : Except Error (String × Cursor) := do
  let (chars, d) ← tagChars (c.rest.length + 1) c
  if c.index = d.index then malformed else return (String.ofList chars, d)

/-- A handle: an exclamation mark, alone or with a second one after a word. -/
def tagHandle (c : Cursor) : Except Error (String × Cursor) :=
  if c.peek ≠ some '!' then malformed
  else
    let c := c.advance
    if c.peek = some ' ' then .ok ("!", c)
    else
      let (word, c) := c.span isWord
      if c.peek = some '!' then .ok (String.ofList ('!' :: (word ++ ['!'])), c.advance)
      else malformed

/-- A tag, up to the blank after it. -/
def tagSource (c : Cursor) : Except Error (TagSource × Cursor) := do
  let (source, c) ←
    if c.peekAt 1 = some '<' then do
      let (suffix, c) ← (c.advanceBy 2).tagUri
      if c.peek = some '>' then pure (TagSource.mk none suffix, c.advance) else malformed
    else if isBlankOrEnd (c.peekAt 1) then pure (TagSource.mk none "!", c.advance)
    else
      let shorthand := (c.rest.drop 1).takeWhile fun x => !(x = ' ' || isBreak x)
      if shorthand.contains '!' then do
        let (handle, c) ← c.tagHandle
        let (suffix, c) ← c.tagUri
        pure (TagSource.mk (some handle) suffix, c)
      else do
        let (suffix, c) ← c.advance.tagUri
        pure (TagSource.mk (some "!") suffix, c)
  if isSpaceOrEnd c.peek then return (source, c) else malformed

/-- The rest of a line that may hold a comment only, with the line end. -/
def commentLine (c : Cursor) : Except Error Cursor :=
  let c := c.skipComment
  if isBreakOrEnd c.peek then .ok c.lineBreak.2 else malformed

/-- A number of a version. -/
def versionNumber (c : Cursor) : Except Error (Nat × Cursor) :=
  match c.span Char.isDigit with
  | ([], _) => malformed
  | (digits, c) =>
    if Digits.maxCount < digits.length then .error (.scalar (.longInteger (.read digits.length)))
    else .ok (Digits.value digits, c)

/-- A directive with its line. -/
def directive (c : Cursor) : Except Error (Directive × Cursor) := do
  let (name, c) := c.advance.span isWord
  if name.isEmpty || !isSpaceOrEnd c.peek then malformed
  else
    let (d, c) ←
      if name = "YAML".toList then do
        let (major, c) ← (c.skip (· = ' ')).versionNumber
        if c.peek ≠ some '.' then malformed
        else
          let (minor, c) ← c.advance.versionNumber
          if isSpaceOrEnd c.peek then pure (Directive.version major minor, c) else malformed
      else if name = "TAG".toList then do
        let (handle, c) ← (c.skip (· = ' ')).tagHandle
        if c.peek ≠ some ' ' then malformed
        else
          let (replacement, c) ← (c.skip (· = ' ')).tagUri
          if isSpaceOrEnd c.peek then pure (Directive.tag handle replacement, c) else malformed
      else pure (Directive.other, c.skipLine)
    return (d, ← c.commentLine)

/-! ## Quoted scalars -/

/-- The character that a short escape stands for. -/
def shortEscape? (x : Char) : Option Char :=
  match x with
  | '0' => some (Char.ofNat 0)
  | 'a' => some (Char.ofNat 7)
  | 'b' => some (Char.ofNat 8)
  | 't' | '\t' => some '\t'
  | 'n' => some '\n'
  | 'v' => some (Char.ofNat 11)
  | 'f' => some (Char.ofNat 12)
  | 'r' => some '\r'
  | 'e' => some (Char.ofNat 27)
  | ' ' => some ' '
  | '"' => some '"'
  | '\\' => some '\\'
  | '/' => some '/'
  | 'N' => some nextLine
  | '_' => some (Char.ofNat 0xa0)
  | 'L' => some (Char.ofNat 0x2028)
  | 'P' => some (Char.ofNat 0x2029)
  | _ => none

/-- The number of digits of an escape by number. -/
def escapeWidth? : Char → Option Nat
  | 'x' => some 2
  | 'u' => some 4
  | 'U' => some 8
  | _ => none

/-- A code point by its number, in the next `width` digits. -/
def numberedPoint (width : Nat) (c : Cursor) : Except Error (CodePoint × Cursor) :=
  match (c.rest.take width).mapM Digits.ofHex? with
  | some digits =>
    if digits.length < width then malformed
    else
      let code := digits.foldl (fun n d => n * 16 + d) 0
      if 0x110000 ≤ code then .error (.scalar (.character code))
      else .ok (.ofNat code, c.advanceBy width)
  | none => malformed

/-- Empty lines inside a quoted scalar, with the blanks that lines begin with. A line that parts
documents may not stand here. -/
def quotedBreaks (fuel : Nat) (c : Cursor) : Except Error (List Char × Cursor) :=
  match fuel with
  | 0 => .ok ([], c)
  | fuel + 1 =>
    if c.atSeparator then malformed
    else
      let c := c.skip fun x => x = ' ' || x = '\t'
      match c.lineBreak with
      | ([], c) => .ok ([], c)
      | (line, c) => do
        let (lines, c) ← quotedBreaks fuel c
        return (line ++ lines, c)

/-- The text that line ends become when lines are joined: one alone becomes a space, one before
empty lines is dropped. -/
def joinLines (line breaks : List Char) : List Char :=
  if line ≠ ['\n'] then line ++ breaks
  else if breaks.isEmpty then [' ']
  else breaks

/-- The inside of a scalar between double or single quotes, and the place after the closing one. -/
def quotedBody (double : Bool) (fuel : Nat) (c : Cursor) : Except Error (List CodePoint × Cursor) :=
  match fuel with
  | 0 => malformed
  | fuel + 1 =>
    match c.peek with
    | none => malformed
    | some x =>
      if x = (if double then '"' else '\'') then
        if !double ∧ c.peekAt 1 = some '\'' then do
          let (more, c) ← quotedBody double fuel (c.advanceBy 2)
          return (.char '\'' :: more, c)
        else .ok ([], c.advance)
      else if double ∧ x = '\\' then do
        let (points, c) ← escape c.advance
        let (more, c) ← quotedBody double fuel c
        return (points ++ more, c)
      else if isBlankOrEnd (some x) then do
        let (chars, c) ← blanks c
        let (more, c) ← quotedBody double fuel c
        return (chars.map .char ++ more, c)
      else do
        let (more, c) ← quotedBody double fuel c.advance
        return (.char x :: more, c)
where
  /-- What follows a backslash: a short escape, one by number, or a line end that is dropped. -/
  escape (c : Cursor) : Except Error (List CodePoint × Cursor) :=
    match c.peek with
    | none => malformed
    | some x =>
      match shortEscape? x, escapeWidth? x with
      | some y, _ => .ok ([.char y], c.advance)
      | none, some width => do
        let (p, c) ← c.advance.numberedPoint width
        return ([p], c)
      | none, none =>
        if isBreak x then do
          let (lines, c) ← quotedBreaks (c.rest.length + 1) c.lineBreak.2
          return (lines.map .char, c)
        else malformed
  /-- Blanks: they are kept inside a line, and dropped where a line ends. -/
  blanks (c : Cursor) : Except Error (List Char × Cursor) :=
    let (spaces, c) := c.span fun x => x = ' ' || x = '\t'
    match c.peek with
    | none => malformed
    | some _ =>
      match c.lineBreak with
      | ([], c) => .ok (spaces, c)
      | (line, c) => do
        let (breaks, c) ← quotedBreaks (c.rest.length + 1) c
        return (joinLines line breaks, c)

/-- A scalar between quotes, from its opening quote. -/
def quotedScalar (c : Cursor) : Except Error (String × Cursor) := do
  let (points, c) ← c.advance.quotedBody (c.peek == some '"') (c.rest.length + 1)
  return (Text.ofCodePoints points, c)

/-! ## Block scalars -/

/-- What becomes of the line ends at the end of a block scalar. -/
inductive Chomping where
  | strip
  | clip
  | keep
deriving DecidableEq, Repr

/-- The mark for the line ends at the end. -/
def chomping? (c : Cursor) : Option (Chomping × Cursor) :=
  match c.peek with
  | some '+' => some (.keep, c.advance)
  | some '-' => some (.strip, c.advance)
  | _ => none

/-- The digit for the indentation, which is not zero. -/
def increment? (c : Cursor) : Except Error (Option Nat × Cursor) :=
  match c.peek with
  | some x =>
    if x = '0' then malformed
    else if x.isDigit then .ok (some (x.toNat - '0'.toNat), c.advance)
    else .ok (none, c)
  | none => .ok (none, c)

/-- The marks after the sign of a block scalar, in either order. -/
def blockHeader (c : Cursor) : Except Error (Chomping × Option Nat × Cursor) := do
  let (chomping, increment, c) ← match c.chomping? with
    | some (chomping, c) => do
      let (increment, c) ← c.increment?
      pure (chomping, increment, c)
    | none => do
      match ← c.increment? with
      | (none, c) => pure (Chomping.clip, none, c)
      | (increment, c) =>
        match c.chomping? with
        | some (chomping, c) => pure (chomping, increment, c)
        | none => pure (Chomping.clip, increment, c)
  if isSpaceOrEnd c.peek then return (chomping, increment, c) else malformed

/-- Spaces up to a column. -/
def skipIndent (indent : Nat) (c : Cursor) : Cursor :=
  c.advanceBy (min (indent - c.column) (c.rest.takeWhile (· = ' ')).length)

/-- Empty lines, each indented up to a column at most. -/
def emptyLines (indent : Nat) (fuel : Nat) (c : Cursor) : List Char × Cursor :=
  let c := c.skipIndent indent
  match fuel, c.lineBreak with
  | fuel + 1, (line@(_ :: _), c) =>
    let (lines, c) := emptyLines indent fuel c
    (line ++ lines, c)
  | _, _ => ([], c)

/-- Empty lines before the first line of a block scalar, and the greatest column that spaces
reach. -/
def leadingLines (fuel : Nat) (c : Cursor) : List Char × Nat × Cursor :=
  let c := c.skip (· = ' ')
  match fuel, c.lineBreak with
  | fuel + 1, (line@(_ :: _), next) =>
    let (lines, column, last) := leadingLines fuel next
    (line ++ lines, max c.column column, last)
  | _, _ => ([], c.column, c)

/-- The lines of a block scalar at a given indentation: the text, the line end after the last line,
and the empty lines after it. -/
def blockLines (folded : Bool) (indent : Nat) (fuel : Nat) (c : Cursor) :
    List Char × List Char × List Char × Cursor :=
  match fuel with
  | 0 => ([], [], [], c)
  | fuel + 1 =>
    let isText (x : Option Char) : Bool := x ≠ some ' ' && x ≠ some '\t'
    let startsWithText := isText c.peek
    let (text, c) := c.span fun x => !isBreak x
    let (line, c) := c.lineBreak
    let (breaks, c) := c.emptyLines indent (c.rest.length + 1)
    if c.column = indent ∧ c.peek.isSome then
      let joined :=
        if folded && line = ['\n'] && startsWithText && isText c.peek then
          if breaks.isEmpty then [' '] else breaks
        else line ++ breaks
      let (more, last, trailing, c) := blockLines folded indent fuel c
      (text ++ joined ++ more, last, trailing, c)
    else (text, line, breaks, c)

/-- A block scalar, from its sign on, inside a collection with a given indentation. -/
def blockScalar (parent : Int) (c : Cursor) : Except Error (String × Cursor) := do
  let folded := c.peek == some '>'
  let (chomping, increment, c) ← c.advance.blockHeader
  let c ← c.commentLine
  let least := (max (parent + 1) 1).toNat
  let (leading, indent, c) := match increment with
    | some n =>
      let indent := least + n - 1
      let (leading, c) := c.emptyLines indent (c.rest.length + 1)
      (leading, indent, c)
    | none =>
      let (leading, column, c) := c.leadingLines (c.rest.length + 1)
      (leading, max least column, c)
  let (text, last, trailing, c) :=
    if c.column = indent ∧ c.peek.isSome then
      let (text, last, trailing, c) := c.blockLines folded indent (c.rest.length + 1)
      (leading ++ text, last, trailing, c)
    else ([], [], leading, c)
  let tail := match chomping with
    | .strip => []
    | .clip => last
    | .keep => last ++ trailing
  return (Text.ofChars (text ++ tail), c)

/-! ## Plain scalars -/

/-- The number of characters up to the end of a word of a plain scalar. -/
def plainLength (inFlow : Bool) : List Char → Nat
  | [] => 0
  | x :: rest =>
    let ends := isBlankOrEnd (some x) ||
      (x = ':' && (isBlankOrEnd rest.head? ||
        (inFlow && (rest.head?.map ",[]\x7b\x7d".toList.contains).getD false))) ||
      (inFlow && ",?[]\x7b\x7d".toList.contains x)
    if ends then 0 else plainLength inFlow rest + 1

/-- Empty lines inside a plain scalar, and whether the scalar may go on after them: it may not at a
line that parts documents. -/
def plainBreaks (fuel : Nat) (c : Cursor) : List Char × Bool × Cursor :=
  match fuel with
  | 0 => ([], false, c)
  | fuel + 1 =>
    let c := c.skip (· = ' ')
    match c.lineBreak with
    | ([], c) => ([], true, c)
    | (line, c) =>
      if c.atSeparator then ([], false, c)
      else
        let (lines, go, c) := plainBreaks fuel c
        (line ++ lines, go, c)

/-- The space between two words of a plain scalar, and whether a line ends in it. Nothing means
that the scalar ends. -/
def plainSpace (c : Cursor) : List Char × Bool × Cursor :=
  let (spaces, c) := c.span (· = ' ')
  match c.lineBreak with
  | ([], c) => (spaces, false, c)
  | (line, c) =>
    if c.atSeparator then ([], true, c)
    else
      let (breaks, go, c) := plainBreaks (c.rest.length + 1) c
      (if go then joinLines line breaks else [], true, c)

/-- A plain scalar: its text, the place after the blanks that follow it, and whether they hold a
line end. The lines after the first are indented to a column at least, unless in a flow. -/
def plainScalar (inFlow : Bool) (indent : Int) (fuel : Nat) (spaces : List Char) (crossed : Bool)
    (c : Cursor) : List Char × Bool × Cursor :=
  match fuel with
  | 0 => ([], crossed, c)
  | fuel + 1 =>
    let length := if c.peek = some '#' then 0 else plainLength inFlow c.rest
    if length = 0 then ([], crossed, c)
    else
      let word := c.rest.take length
      let (next, crossed, c) := (c.advanceBy length).plainSpace
      if next.isEmpty || c.peek = some '#' || (!inFlow && (c.column : Int) < indent) then
        (spaces ++ word, crossed, c)
      else
        let (more, crossed, c) := c.plainScalar inFlow indent fuel next crossed
        (spaces ++ word ++ more, crossed, c)

end Cursor

end Scenario.Yaml
