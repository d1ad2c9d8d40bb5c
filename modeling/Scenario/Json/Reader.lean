import Scenario.Json
import Scenario.Number.Digits
import Scenario.Text.CodePoint
import Scenario.Text.Lines

/-! # Reading JSON

Each reader takes the characters that are left and gives back what it read with the characters
after it. A refusal keeps the characters from the place it points at. Besides the numbers of the
standard, the names of `nan` and the infinities are read. -/

namespace Scenario.Json

open Text (CodePoint)

/-- What is wrong with a text. -/
inductive Problem where
  | expectedValue
  | expectedName
  | expectedColon
  | expectedComma
  | extraData
  | unterminatedText
  | controlCharacter
  | badEscape
  | badUnicodeEscape
  | byteOrderMark
deriving DecidableEq, Repr

/-- The words for a problem. -/
def Problem.words : Problem → String
  | .expectedValue => "Expecting value"
  | .expectedName => "Expecting property name enclosed in double quotes"
  | .expectedColon => "Expecting ':' delimiter"
  | .expectedComma => "Expecting ',' delimiter"
  | .extraData => "Extra data"
  | .unterminatedText => "Unterminated string starting at"
  | .controlCharacter => "Invalid control character at"
  | .badEscape => "Invalid \\escape"
  | .badUnicodeEscape => "Invalid \\uXXXX escape"
  | .byteOrderMark => "Unexpected UTF-8 BOM (decode using utf-8-sig)"

/-- Why a text is no document. -/
inductive Fault where
  /-- The text breaks the grammar. -/
  | malformed (problem : Problem) (place : Text.Place)
  /-- A whole number has more digits than are read. -/
  | longInteger (digits : Nat)
deriving DecidableEq, Repr

/-- A refusal while reading: the problem and the characters from where it lies, or the digits of
a number that is too long. -/
inductive Refusal where
  | at (problem : Problem) (rest : List Char)
  | longInteger (digits : Nat)

/-- Whether a character may stand between tokens. -/
def isBlank (c : Char) : Bool := c = ' ' || c = '\t' || c = '\n' || c = '\r'

/-- The characters from the first one that is not blank. -/
def skipBlanks (cs : List Char) : List Char := cs.dropWhile isBlank

/-- The value of four digits in base sixteen. -/
def hexUnit? (a b c d : Char) : Option Nat := do
  let a ← Digits.ofHex? a
  let b ← Digits.ofHex? b
  let c ← Digits.ofHex? c
  let d ← Digits.ofHex? d
  return ((a * 16 + b) * 16 + c) * 16 + d

/-- The character that a short escape stands for. -/
def shortEscape? : Char → Option Char
  | '"' => some '"'
  | '\\' => some '\\'
  | '/' => some '/'
  | 'b' => some (Char.ofNat 0x08)
  | 'f' => some (Char.ofNat 0x0c)
  | 'n' => some '\n'
  | 'r' => some '\r'
  | 't' => some '\t'
  | _ => none

/-- The code points of a text up to its closing quote, each escape on its own; `opening` begins with
the opening quote. -/
def readPoints (opening : List Char) : List Char → Except Refusal (List CodePoint × List Char)
  | [] => .error (.at .unterminatedText opening)
  | ['\\'] => .error (.at .unterminatedText opening)
  | '\\' :: 'u' :: a :: b :: c :: d :: rest =>
    match hexUnit? a b c d, rest.isEmpty with
    | some n, false => do
      let (ps, rest) ← readPoints opening rest
      return (.ofNat n :: ps, rest)
    | _, _ => .error (.at .badUnicodeEscape ('u' :: a :: b :: c :: d :: rest))
  | '\\' :: c :: rest =>
    if c = 'u' then .error (.at .badUnicodeEscape (c :: rest))
    else match shortEscape? c with
      | some e => do
        let (ps, rest) ← readPoints opening rest
        return (.char e :: ps, rest)
      | none => .error (.at .badEscape ('\\' :: c :: rest))
  | c :: rest =>
    if c = '"' then .ok ([], rest)
    else if c.toNat < 0x20 then .error (.at .controlCharacter (c :: rest))
    else do
      let (ps, rest) ← readPoints opening rest
      return (.char c :: ps, rest)

/-- A text whose opening quote has been read. -/
def readText (rest : List Char) : Except Refusal (String × List Char) := do
  let (ps, rest) ← readPoints ('"' :: rest) rest
  return (Text.ofCodePoints (Text.joinHalves ps), rest)

/-- The digits after a point, if there is a point with a digit after it. -/
def readFraction : List Char → List Char × List Char
  | '.' :: rest =>
    match rest.takeWhile Char.isDigit with
    | [] => ([], '.' :: rest)
    | ds => (ds, rest.dropWhile Char.isDigit)
  | cs => ([], cs)

/-- The exponent after a number, if there is a complete one. -/
def readExponent (cs : List Char) : Option Int × List Char :=
  match cs with
  | e :: rest =>
    if e = 'e' ∨ e = 'E' then
      let (negative, body) := match rest with
        | '-' :: r => (true, r)
        | '+' :: r => (false, r)
        | r => (false, r)
      match body.takeWhile Char.isDigit with
      | [] => (none, cs)
      | ds =>
        let n : Int := Digits.value ds
        (some (if negative then -n else n), body.dropWhile Char.isDigit)
    else (none, cs)
  | [] => (none, [])

/-- The digits before the point: a zero alone, or digits that do not begin with one. -/
def readWhole : List Char → Option (List Char × List Char)
  | '0' :: rest => some (['0'], rest)
  | c :: rest =>
    if c.isDigit then some ((c :: rest).takeWhile Char.isDigit, (c :: rest).dropWhile Char.isDigit)
    else none
  | [] => none

/-- A number without its sign. -/
def readUnsigned (negative : Bool) (cs : List Char) :
    Option (Except Refusal (Json × List Char)) := do
  let (whole, rest) ← readWhole cs
  let (fraction, rest) := readFraction rest
  let (exponent, rest) := readExponent rest
  if fraction.isEmpty && exponent.isNone then
    if Digits.maxCount < whole.length then some (.error (.longInteger whole.length))
    else
      let n : Int := Digits.value whole
      some (.ok (.int (if negative then -n else n), rest))
  else
    let x := Binary64.ofDecimal negative (Digits.value (whole ++ fraction))
      (exponent.getD 0 - fraction.length)
    some (.ok (.float x, rest))

/-- A number. -/
def readNumber (cs : List Char) : Except Refusal (Json × List Char) :=
  let number := match cs with
    | '-' :: rest => readUnsigned true rest
    | _ => readUnsigned false cs
  number.getD (.error (.at .expectedValue cs))

/-- The words that are values. -/
def words : List (List Char × Json) :=
  [("null".toList, .null), ("true".toList, .bool true), ("false".toList, .bool false),
   ("NaN".toList, .float .nan), ("Infinity".toList, .float (.infinity false)),
   ("-Infinity".toList, .float (.infinity true))]

/-- A word or a number. -/
def readScalar (cs : List Char) : Except Refusal (Json × List Char) :=
  match words.find? fun w => w.1.isPrefixOf cs with
  | some (word, j) => .ok (j, cs.drop word.length)
  | none => readNumber cs

/-- The name of a member with its colon, and blanks after it. -/
def readName (cs : List Char) : Except Refusal (String × List Char) :=
  match cs with
  | '"' :: rest => do
    let (name, rest) ← readText rest
    match skipBlanks rest with
    | ':' :: rest => return (name, skipBlanks rest)
    | rest => .error (.at .expectedColon rest)
  | _ => .error (.at .expectedName cs)

mutual

/-- A value, nested to a given depth at most. -/
def readValue : Nat → List Char → Except Refusal (Json × List Char)
  | 0, cs => .error (.at .expectedValue cs)
  | fuel + 1, cs =>
    match cs with
    | '"' :: rest => do
      let (s, rest) ← readText rest
      return (.text s, rest)
    | '[' :: rest =>
      match skipBlanks rest with
      | ']' :: rest => .ok (.list [], rest)
      | rest => do
        let (items, rest) ← readItems fuel rest
        return (.list items, rest)
    | '\x7b' :: rest =>
      match skipBlanks rest with
      | '\x7d' :: rest => .ok (.object [], rest)
      | rest => do
        let (members, rest) ← readMembers fuel rest
        return (objectOf members, rest)
    | _ => readScalar cs

/-- The items of a list up to its closing bracket. -/
def readItems : Nat → List Char → Except Refusal (List Json × List Char)
  | 0, cs => .error (.at .expectedValue cs)
  | fuel + 1, cs => do
    let (j, rest) ← readValue fuel cs
    match skipBlanks rest with
    | ']' :: rest => return ([j], rest)
    | ',' :: rest =>
      let (items, rest) ← readItems fuel (skipBlanks rest)
      return (j :: items, rest)
    | rest => .error (.at .expectedComma rest)

/-- The members of an object up to its closing brace. -/
def readMembers : Nat → List Char → Except Refusal (List (String × Json) × List Char)
  | 0, cs => .error (.at .expectedValue cs)
  | fuel + 1, cs => do
    let (name, rest) ← readName cs
    let (j, rest) ← readValue fuel rest
    match skipBlanks rest with
    | '\x7d' :: rest => return ([(name, j)], rest)
    | ',' :: rest =>
      let (members, rest) ← readMembers fuel (skipBlanks rest)
      return ((name, j) :: members, rest)
    | rest => .error (.at .expectedComma rest)

end

/-- A whole text as one value with blanks around it. -/
def readDocument (cs : List Char) : Except Refusal Json :=
  if cs.head? = some (Char.ofNat 0xFEFF) then .error (.at .byteOrderMark cs)
  else do
    let (j, rest) ← readValue (2 * cs.length + 2) (skipBlanks cs)
    match skipBlanks rest with
    | [] => return j
    | rest => .error (.at .extraData rest)

/-- The document that a text is. -/
def ofChars (cs : List Char) : Except Fault Json :=
  match readDocument cs with
  | .ok j => .ok j
  | .error (.at problem rest) =>
    .error (.malformed problem (.after (cs.take (cs.length - rest.length))))
  | .error (.longInteger digits) => .error (.longInteger digits)

/-- The message for a text that is no document. -/
def Fault.message : Fault → String
  | .malformed problem place => problem.words ++ ": " ++ place.text
  | .longInteger digits => (Digits.Fault.read digits).message

end Scenario.Json
