import Scenario.Yaml.Lexeme

/-! # From text to tokens

A key without a mark of its own is known only by the colon after it. Places where such a key may
begin are remembered, one for every level of flow collections, and the tokens that open the key are
put in when the colon is met. -/

namespace Scenario.Yaml

/-- A place where a key may have begun. -/
structure PossibleKey where
  /-- The number of tokens in front of it. -/
  tokens : Nat
  /-- Whether a colon has to follow, since the place is where an entry of a block mapping begins. -/
  required : Bool
  index : Nat
  line : Nat
  column : Nat
deriving Repr

/-- What has been made of a text. The tokens are kept last first. -/
structure TokenState where
  cursor : Cursor
  flowLevel : Nat := 0
  /-- The column of the innermost block collection, `-1` outside of all. -/
  indent : Int := -1
  /-- The columns of the block collections around it. -/
  indents : List Int := []
  /-- Whether a key may begin here. -/
  keyAllowed : Bool := true
  /-- The places where a key may have begun, by level of flow collections. -/
  possibleKeys : List (Nat × PossibleKey) := []
  tokens : List Token := []
deriving Repr

namespace TokenState

/-- The state with a token more. -/
def emit (s : TokenState) (t : Token) : TokenState := { s with tokens := t :: s.tokens }

/-- The state with a token in front of which there are `n` others. -/
def insertAt (s : TokenState) (n : Nat) (t : Token) : TokenState :=
  let later := s.tokens.length - n
  { s with tokens := s.tokens.take later ++ t :: s.tokens.drop later }

/-- Closes the block collections beyond a column. -/
def unwind (column : Int) (fuel : Nat) (s : TokenState) : TokenState :=
  match fuel with
  | 0 => s
  | fuel + 1 =>
    if s.flowLevel = 0 ∧ column < s.indent then
      unwind column fuel
        { s.emit .blockEnd with indent := s.indents.headD (-1), indents := s.indents.drop 1 }
    else s

/-- Closes the block collections beyond a column. -/
def unwindTo (s : TokenState) (column : Int) : TokenState := s.unwind column (s.indents.length + 1)

/-- Whether a block collection begins at a column, and the state inside it. -/
def openAt (s : TokenState) (column : Int) : Bool × TokenState :=
  if s.indent < column then (true, { s with indent := column, indents := s.indent :: s.indents })
  else (false, s)

/-- Forgets places that are on another line or too far back. No colon follows them, so a required
one is an error. -/
def dropStaleKeys (s : TokenState) : Except Error TokenState :=
  let isStale (k : PossibleKey) : Bool :=
    k.line != s.cursor.line || 1024 < s.cursor.index - k.index
  if s.possibleKeys.any fun k => isStale k.2 && k.2.required then malformed
  else .ok { s with possibleKeys := s.possibleKeys.filter fun k => !isStale k.2 }

/-- Forgets the place on the current level. -/
def dropKey (s : TokenState) : Except Error TokenState :=
  if s.possibleKeys.any fun k => k.1 == s.flowLevel && k.2.required then malformed
  else .ok { s with possibleKeys := s.possibleKeys.filter fun k => k.1 != s.flowLevel }

/-- Remembers that a key may begin here. -/
def saveKey (s : TokenState) : Except Error TokenState :=
  if s.keyAllowed then do
    let required := s.flowLevel == 0 && s.indent == (s.cursor.column : Int)
    let s' ← s.dropKey
    let key : PossibleKey :=
      ⟨s.tokens.length, required, s.cursor.index, s.cursor.line, s.cursor.column⟩
    return { s' with possibleKeys := (s.flowLevel, key) :: s'.possibleKeys }
  else .ok s

/-- The state after blanks, comments and line ends. In a block, a key may begin on a new line. -/
def skipToToken (fuel : Nat) (s : TokenState) : TokenState :=
  match fuel with
  | 0 => s
  | fuel + 1 =>
    match s.cursor.skipComment.lineBreak with
    | ([], c) => { s with cursor := c }
    | (_, c) =>
      skipToToken fuel { s with cursor := c, keyAllowed := s.keyAllowed || s.flowLevel == 0 }

/-- A token of one character. -/
def single (s : TokenState) (t : Token) : TokenState :=
  { s.emit t with cursor := s.cursor.advance }

/-- A line of marks or a directive: it closes all block collections. -/
def closeAll (s : TokenState) : Except Error TokenState := do
  let s ← (s.unwindTo (-1)).dropKey
  return { s with keyAllowed := false }

/-- The beginning of a flow collection, which may be a key. -/
def openFlow (s : TokenState) (t : Token) : Except Error TokenState := do
  let s ← s.saveKey
  return { s.single t with flowLevel := s.flowLevel + 1, keyAllowed := true }

/-- The end of a flow collection. -/
def closeFlow (s : TokenState) (t : Token) : Except Error TokenState := do
  let s ← s.dropKey
  return { s.single t with flowLevel := s.flowLevel - 1, keyAllowed := false }

/-- In a block, the first entry of a collection opens it; an entry needs a place where a key could
begin. -/
def openBlock (s : TokenState) (t : Token) : Except Error TokenState :=
  if s.flowLevel ≠ 0 then .ok s
  else if !s.keyAllowed then malformed
  else
    let (opened, s) := s.openAt s.cursor.column
    .ok (if opened then s.emit t else s)

/-- The dash of an entry. -/
def blockEntry (s : TokenState) : Except Error TokenState := do
  let s ← s.openBlock .blockSequenceStart
  let s ← { s with keyAllowed := true }.dropKey
  return s.single .blockEntry

/-- The comma between entries. -/
def flowEntry (s : TokenState) : Except Error TokenState := do
  let s ← { s with keyAllowed := true }.dropKey
  return s.single .flowEntry

/-- The mark of a key. -/
def key (s : TokenState) : Except Error TokenState := do
  let s ← s.openBlock .blockMappingStart
  let s ← { s with keyAllowed := s.flowLevel == 0 }.dropKey
  return s.single .key

/-- The colon of a value: it makes a key of the place remembered on this level. Without one it
follows a marked key, or an empty one. -/
def value (s : TokenState) : Except Error TokenState :=
  match s.possibleKeys.lookup s.flowLevel with
  | some k =>
    let s := { s with possibleKeys := s.possibleKeys.filter fun p => p.1 != s.flowLevel }
    let s := s.insertAt k.tokens .key
    let s :=
      if s.flowLevel = 0 then
        let (opened, s) := s.openAt k.column
        if opened then s.insertAt k.tokens .blockMappingStart else s
      else s
    .ok ({ s with keyAllowed := false }.single .value)
  | none => do
    let s ← s.openBlock .blockMappingStart
    let s ← { s with keyAllowed := s.flowLevel == 0 }.dropKey
    return s.single .value

/-- A token that may begin a key, or be one. -/
def keyLike {α : Type} (s : TokenState) (read : Cursor → Except Error (α × Cursor))
    (token : α → Token) : Except Error TokenState := do
  let s ← s.saveKey
  let (a, c) ← read s.cursor
  return { s.emit (token a) with cursor := c, keyAllowed := false }

/-- A block scalar; a key may follow it. -/
def blockScalar (s : TokenState) : Except Error TokenState := do
  let s ← { s with keyAllowed := true }.dropKey
  let (text, c) ← s.cursor.blockScalar s.indent
  return { s.emit (.scalar text false) with cursor := c }

/-- A plain scalar; a key may follow it on a later line. -/
def plainScalar (s : TokenState) : Except Error TokenState := do
  let s ← s.saveKey
  let (text, crossed, c) :=
    s.cursor.plainScalar (s.flowLevel != 0) (s.indent + 1) (s.cursor.rest.length + 1) [] false
  return { s.emit (.scalar (Text.ofChars text) true) with cursor := c, keyAllowed := crossed }

/-- Whether a plain scalar may begin with a character, given the one after it. -/
def startsPlain (inFlow : Bool) (x : Char) (next : Option Char) : Bool :=
  !(isBlankOrEnd (some x) || "-?:,[]\x7b\x7d#&*!|>'\"%@`".toList.contains x) ||
    (!isBlankOrEnd next && (x = '-' || (!inFlow && (x = '?' || x = ':'))))

/-- The state after the next token, which begins with a given character. -/
def next (s : TokenState) (x : Char) : Except Error TokenState :=
  let c := s.cursor
  let inFlow := s.flowLevel != 0
  let atLineStart := c.column == 0
  let spaced := isBlankOrEnd (c.peekAt 1)
  if x = '%' ∧ atLineStart then do
    let s ← s.closeAll
    let (d, c) ← s.cursor.directive
    return { s.emit (.directive d) with cursor := c }
  else if atLineStart ∧ c.atMarker '-' then do
    let s ← s.closeAll
    return { s.emit .documentStart with cursor := c.advanceBy 3 }
  else if atLineStart ∧ c.atMarker '.' then do
    let s ← s.closeAll
    return { s.emit .documentEnd with cursor := c.advanceBy 3 }
  else if x = '[' then s.openFlow .flowSequenceStart
  else if x = '\x7b' then s.openFlow .flowMappingStart
  else if x = ']' then s.closeFlow .flowSequenceEnd
  else if x = '\x7d' then s.closeFlow .flowMappingEnd
  else if x = ',' then s.flowEntry
  else if x = '-' ∧ spaced then s.blockEntry
  else if x = '?' ∧ (inFlow ∨ spaced) then s.key
  else if x = ':' ∧ (inFlow ∨ spaced) then s.value
  else if x = '*' then s.keyLike Cursor.anchorName .alias
  else if x = '&' then s.keyLike Cursor.anchorName .anchor
  else if x = '!' then s.keyLike Cursor.tagSource .tag
  else if (x = '|' ∨ x = '>') ∧ !inFlow then s.blockScalar
  else if x = '\'' ∨ x = '"' then s.keyLike Cursor.quotedScalar (.scalar · false)
  else if startsPlain inFlow x (c.peekAt 1) then s.plainScalar
  else malformed

/-- The tokens that are certain: those in front of the first place where a key may have begun. -/
def certain (s : TokenState) : List Token :=
  let count := (s.possibleKeys.map (·.2.tokens)).foldl min s.tokens.length
  s.tokens.reverse.take count

/-- The state in front of the next token, with the block collections closed that end there. -/
def approach (s : TokenState) : Except Error TokenState := do
  let s ← (s.skipToToken (s.cursor.rest.length + 1)).dropStaleKeys
  return s.unwindTo s.cursor.column

/-- The tokens of a text. Where it cannot be read on, only the tokens that are certain by then
stand in front of the reason. -/
def run (fuel : Nat) (s : TokenState) : Except Error (List Token) :=
  match fuel with
  | 0 => malformed
  | fuel + 1 => do
    let here ← s.approach
    match here.cursor.peek with
    | none =>
      let last ← (here.unwindTo (-1)).dropKey
      return (last.emit .streamEnd).tokens.reverse
    | some x =>
      match here.next x with
      | .ok next => run fuel next
      | .error .malformed => malformed
      | .error (.scalar fault) => return (← s.dropStaleKeys).certain ++ [.broken fault]

end TokenState

/-- The tokens of a text. -/
def tokenize (text : List Char) : Except Error (List Token) :=
  if text.all isAllowed then
    let start : Cursor := { rest := text }
    let start := if start.peek = some byteOrderMark then start.advance else start
    TokenState.run (text.length + 2) { cursor := start }
  else malformed

end Scenario.Yaml
