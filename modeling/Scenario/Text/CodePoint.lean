import Scenario.Number.Digits

/-! # Texts as code points

A text is a sequence of code points. Most of them are characters. The others are halves: two of them
beside each other are a way to write one character beyond sixteen bits, but a half may also stand
alone, and then it is no character.

A string has room for characters only, so it keeps a half as two of them, a mark and the character
that stands in for the half. Marks in front of a character that is not meant as a stand-in are
doubled, so that their number tells which of the two is meant. In this way each string is one text,
and each text one string; without marks, the text of a string is made of its characters. -/

namespace Scenario.Text

/-- One of two code points that are a way to write one character. -/
inductive Half where
  /-- The half that comes first. -/
  | high (n : Fin 0x400)
  | low (n : Fin 0x400)
deriving DecidableEq, Repr

/-- The number of a half. -/
def Half.toNat : Half → Nat
  | .high n => 0xD800 + n
  | .low n => 0xDC00 + n

/-- A half told by its number. -/
def Half.escape (h : Half) : List Char := '\\' :: 'u' :: Digits.hexPadded 4 h.toNat

/-- A character, or a half. -/
inductive CodePoint where
  | char (c : Char)
  | half (h : Half)
deriving DecidableEq, Repr

namespace CodePoint

/-- The code point with a number. -/
def ofNat (n : Nat) : CodePoint :=
  if h : 0xD800 ≤ n ∧ n < 0xDC00 then .half (.high ⟨n - 0xD800, by omega⟩)
  else if h : 0xDC00 ≤ n ∧ n < 0xE000 then .half (.low ⟨n - 0xDC00, by omega⟩)
  else .char (Char.ofNat n)

/-- Whether a code point is a half. -/
def isHalf : CodePoint → Bool
  | .char _ => false
  | .half _ => true

/-- A code point where only characters can be shown. -/
def shown : CodePoint → List Char
  | .char c => [c]
  | .half h => h.escape

/-- A code point as a character; a half is replaced. -/
def replaced : CodePoint → Char
  | .char c => c
  | .half _ => Char.ofNat 0xFFFD

end CodePoint

/-- The character that two halves beside each other are a way to write. -/
def charOfHalves (h l : Fin 0x400) : Char := Char.ofNat (0x10000 + h * 0x400 + l)

/-- Code points with the character in place of two halves that are a way to write it. -/
def joinHalves : List CodePoint → List CodePoint
  | .half (.high h) :: .half (.low l) :: rest => .char (charOfHalves h l) :: joinHalves rest
  | p :: rest => p :: joinHalves rest
  | [] => []

/-! ## Strings -/

/-- The mark in front of a character that stands in for a half. -/
def mark : Char := Char.ofNat 0x10FFFF

/-- The character that stands in for a half. -/
def Half.standIn (h : Half) : Char := Char.ofNat (h.toNat + 0x800)

/-- The half that a character may stand in for. -/
def half? (c : Char) : Option Half :=
  if h : 0xE000 ≤ c.toNat ∧ c.toNat < 0xE400 then some (.high ⟨c.toNat - 0xE000, by omega⟩)
  else if h : 0xE400 ≤ c.toNat ∧ c.toNat < 0xE800 then some (.low ⟨c.toNat - 0xE400, by omega⟩)
  else none

/-- The code points of a number of marks with the characters after them. -/
def codePointsFrom (marks : Nat) : List Char → List CodePoint
  | [] => List.replicate marks (.char mark)
  | c :: rest =>
    if c = mark then codePointsFrom (marks + 1) rest
    else match half? c with
      | none => List.replicate marks (.char mark) ++ .char c :: codePointsFrom 0 rest
      | some h =>
        List.replicate (marks / 2) (.char mark) ++
          (if marks % 2 = 0 then .char c else .half h) :: codePointsFrom 0 rest

/-- The code points of a text. -/
def codePoints (s : String) : List CodePoint := codePointsFrom 0 s.toList

/-- The characters that keep a number of marks with the code points after them. -/
def charsFrom (marks : Nat) : List CodePoint → List Char
  | [] => List.replicate marks mark
  | .char c :: rest =>
    if c = mark then charsFrom (marks + 1) rest
    else List.replicate (if (half? c).isSome then 2 * marks else marks) mark ++
      c :: charsFrom 0 rest
  | .half h :: rest => List.replicate (2 * marks + 1) mark ++ h.standIn :: charsFrom 0 rest

/-- The text of code points. -/
def ofCodePoints (ps : List CodePoint) : String := String.ofList (charsFrom 0 ps)

/-- The text of characters. -/
def ofChars (cs : List Char) : String := ofCodePoints (cs.map .char)

/-- Whether a half is among the code points of a text. -/
def hasHalf (s : String) : Bool := (codePoints s).any (·.isHalf)

/-- The characters of a text where only characters can be shown. -/
def shown (s : String) : String := String.ofList ((codePoints s).flatMap (·.shown))

end Scenario.Text
