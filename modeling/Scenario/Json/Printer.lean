import Scenario.Json
import Scenario.Number.Digits
import Scenario.Text.CodePoint

/-! # Writing JSON

Texts are written with ASCII characters only: what is not one becomes one or two escapes of
sixteen bits. -/

namespace Scenario.Json

/-- A unit of sixteen bits as an escape. -/
def unitEscape (n : Nat) : List Char := '\\' :: 'u' :: Digits.hexPadded 4 n

/-- One character of a text. -/
def escapeChar (c : Char) : List Char :=
  if c = '"' ∨ c = '\\' then ['\\', c]
  else if c = '\n' then ['\\', 'n']
  else if c = '\r' then ['\\', 'r']
  else if c = '\t' then ['\\', 't']
  else if c.toNat = 0x08 then ['\\', 'b']
  else if c.toNat = 0x0c then ['\\', 'f']
  else if 0x20 ≤ c.toNat ∧ c.toNat < 0x7f then [c]
  else if c.toNat < 0x10000 then unitEscape c.toNat
  else
    let n := c.toNat - 0x10000
    unitEscape (0xD800 + n / 0x400) ++ unitEscape (0xDC00 + n % 0x400)

/-- One code point of a text. -/
def escapePoint : Text.CodePoint → List Char
  | .char c => escapeChar c
  | .half h => h.escape

/-- A text between quotes. -/
def writeText (s : String) : List Char :=
  '"' :: ((Text.codePoints s).flatMap escapePoint ++ ['"'])

/-- A floating-point number; the ones that are not finite have names. -/
def writeFloat : Binary64 → List Char
  | .nan => "NaN".toList
  | .infinity negative => (if negative then "-Infinity" else "Infinity").toList
  | x => x.text.toList

/-- A new line, indented by two blanks a level. -/
def newLine (level : Nat) : List Char := '\n' :: List.replicate (2 * level) ' '

mutual

/-- A document with every item and member on a line of its own, inside `level` levels. -/
def writeIndented (level : Nat) : Json → List Char
  | .null => "null".toList
  | .bool b => (if b then "true" else "false").toList
  | .int n => (toString n).toList
  | .float x => writeFloat x
  | .text s => writeText s
  | .list [] => ['[', ']']
  | .list (j :: rest) =>
    '[' :: (newLine (level + 1) ++ (writeIndented (level + 1) j ++
      (writeItems (level + 1) rest ++ (newLine level ++ [']']))))
  | .object [] => ['\x7b', '\x7d']
  | .object ((name, j) :: rest) =>
    '\x7b' :: (newLine (level + 1) ++ (writeText name ++ (':' :: ' ' ::
      (writeIndented (level + 1) j ++ (writeMembers (level + 1) rest ++
        (newLine level ++ ['\x7d']))))))

/-- The further items of a list, each after a comma. -/
def writeItems (level : Nat) : List Json → List Char
  | [] => []
  | j :: rest => ',' :: (newLine level ++ (writeIndented level j ++ writeItems level rest))

/-- The further members of an object, each after a comma. -/
def writeMembers (level : Nat) : List (String × Json) → List Char
  | [] => []
  | (name, j) :: rest =>
    ',' :: (newLine level ++ (writeText name ++ (':' :: ' ' ::
      (writeIndented level j ++ writeMembers level rest))))

end

mutual

/-- A document on one line. -/
def writeCompact : Json → List Char
  | .null => "null".toList
  | .bool b => (if b then "true" else "false").toList
  | .int n => (toString n).toList
  | .float x => writeFloat x
  | .text s => writeText s
  | .list items => '[' :: (compactItems items ++ [']'])
  | .object entries => '\x7b' :: (compactMembers entries ++ ['\x7d'])

/-- The items of a list between commas. -/
def compactItems : List Json → List Char
  | [] => []
  | [j] => writeCompact j
  | j :: rest => writeCompact j ++ (',' :: compactItems rest)

/-- The members of an object between commas. -/
def compactMembers : List (String × Json) → List Char
  | [] => []
  | [(name, j)] => writeText name ++ (':' :: writeCompact j)
  | (name, j) :: rest => writeText name ++ (':' :: (writeCompact j ++ (',' :: compactMembers rest)))

end

/-- A document with every item and member on a line of its own. -/
def pretty (j : Json) : String := String.ofList (writeIndented 0 j)

/-- A document on one line. -/
def compact (j : Json) : String := String.ofList (writeCompact j)

end Scenario.Json
