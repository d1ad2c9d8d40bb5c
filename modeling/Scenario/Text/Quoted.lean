import Scenario.Number.Digits
import Scenario.Text.CodePoint
import Scenario.Text.Printable

/-! # Quoted texts

A text is shown between quotes, with escapes for the quote, the backslash and what cannot be
printed. -/

namespace Scenario.Text

/-- The quote that a text is written between: single, unless only the double one avoids escapes. -/
def quoteFor (cs : List Char) : Char :=
  if cs.contains '\'' && !cs.contains '"' then '"' else '\''

/-- One character between quotes. -/
def escapeChar (quote c : Char) : List Char :=
  if c = quote ∨ c = '\\' then ['\\', c]
  else if c = '\n' then ['\\', 'n']
  else if c = '\r' then ['\\', 'r']
  else if c = '\t' then ['\\', 't']
  else if isPrintable c then [c]
  else if c.toNat < 0x100 then '\\' :: 'x' :: Digits.hexPadded 2 c.toNat
  else if c.toNat < 0x10000 then '\\' :: 'u' :: Digits.hexPadded 4 c.toNat
  else '\\' :: 'U' :: Digits.hexPadded 8 c.toNat

/-- One code point between quotes. -/
def escapePoint (quote : Char) : CodePoint → List Char
  | .char c => escapeChar quote c
  | .half h => h.escape

/-- A text between quotes. -/
def quoted (s : String) : String :=
  let quote := quoteFor s.toList
  String.ofList (quote :: ((codePoints s).flatMap (escapePoint quote) ++ [quote]))

/-- One byte between quotes. -/
def escapeByte (quote : Char) (b : UInt8) : List Char :=
  let c := Char.ofNat b.toNat
  if c = quote ∨ c = '\\' then ['\\', c]
  else if c = '\n' then ['\\', 'n']
  else if c = '\r' then ['\\', 'r']
  else if c = '\t' then ['\\', 't']
  else if 0x20 ≤ b.toNat ∧ b.toNat < 0x7f then [c]
  else '\\' :: 'x' :: Digits.hexPadded 2 b.toNat

/-- A sequence of bytes between quotes, after a mark that tells it from a text. -/
def quotedBytes (bytes : List UInt8) : String :=
  let quote := quoteFor (bytes.map fun b => Char.ofNat b.toNat)
  String.ofList ('b' :: quote :: (bytes.flatMap (escapeByte quote) ++ [quote]))

/-- Bytes as pairs of digits in base sixteen. -/
def hexOfBytes (bytes : List UInt8) : String :=
  String.ofList (bytes.flatMap fun b => Digits.hexPadded 2 b.toNat)

end Scenario.Text
