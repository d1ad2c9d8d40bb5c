/-! # Bytes as text

Decoding of UTF-8 with the exact place and kind of the first fault: the shortest forms only, no
surrogates, nothing beyond the last code point. -/

namespace Scenario.Text.Utf8

/-- What is wrong with a sequence of bytes. -/
inductive Reason where
  | invalidStart
  | invalidContinuation
  | unexpectedEnd
deriving DecidableEq, Repr

/-- The first fault: the bad bytes are the ones from `start` up to, not including, `stop`, and
`byte` is the first of them. -/
structure Fault where
  reason : Reason
  byte : UInt8
  start : Nat
  stop : Nat
deriving DecidableEq, Repr

/-- The words for a reason. -/
def Reason.text : Reason → String
  | .invalidStart => "invalid start byte"
  | .invalidContinuation => "invalid continuation byte"
  | .unexpectedEnd => "unexpected end of data"

/-- The message for a fault. -/
def Fault.message (f : Fault) : String :=
  let digits := Nat.toDigits 16 f.byte.toNat
  let hex := String.ofList (List.replicate (2 - digits.length) '0' ++ digits)
  let place :=
    if f.stop = f.start + 1 then s!"byte 0x{hex} in position {f.start}"
    else s!"bytes in position {f.start}-{f.stop - 1}"
  s!"'utf-8' codec can't decode {place}: {f.reason.text}"

/-- Whether a byte continues a character. -/
def isContinuation (b : UInt8) : Bool := 0x80 ≤ b.toNat && b.toNat < 0xC0

/-- The bounds of the byte after a given first byte: some forms would be too long, some would be
surrogates, some would lie beyond the last code point. -/
def secondInRange (first second : UInt8) : Bool :=
  let b := second.toNat
  match first.toNat with
  | 0xE0 => 0xA0 ≤ b && b < 0xC0
  | 0xED => 0x80 ≤ b && b < 0xA0
  | 0xF0 => 0x90 ≤ b && b < 0xC0
  | 0xF4 => 0x80 ≤ b && b < 0x90
  | _ => isContinuation second

/-- The number of bytes of a character with a given first byte, if it is one. -/
def width? (first : UInt8) : Option Nat :=
  let b := first.toNat
  if b < 0x80 then some 1
  else if b < 0xC2 then none
  else if b < 0xE0 then some 2
  else if b < 0xF0 then some 3
  else if b < 0xF5 then some 4
  else none

private def payload (b : UInt8) : Nat := b.toNat % 0x40

/-- Decodes bytes that begin at a position. -/
def decodeFrom (position : Nat) : List UInt8 → Except Fault (List Char)
  | [] => .ok []
  | b :: rest =>
    let fault (reason : Reason) (length : Nat) : Except Fault (List Char) :=
      .error ⟨reason, b, position, position + length⟩
    match width? b with
    | none => fault .invalidStart 1
    | some 1 => (Char.ofNat b.toNat :: ·) <$> decodeFrom (position + 1) rest
    | some width =>
      match rest with
      | [] => fault .unexpectedEnd 1
      | b₂ :: rest₂ =>
        if !secondInRange b b₂ then fault .invalidContinuation 1
        else if width = 2 then
          (Char.ofNat (b.toNat % 0x20 * 0x40 + payload b₂) :: ·) <$> decodeFrom (position + 2) rest₂
        else
          match rest₂ with
          | [] => fault .unexpectedEnd 2
          | b₃ :: rest₃ =>
            if !isContinuation b₃ then fault .invalidContinuation 2
            else if width = 3 then
              (Char.ofNat ((b.toNat % 0x10 * 0x40 + payload b₂) * 0x40 + payload b₃) :: ·) <$>
                decodeFrom (position + 3) rest₃
            else
              match rest₃ with
              | [] => fault .unexpectedEnd 3
              | b₄ :: rest₄ =>
                if !isContinuation b₄ then fault .invalidContinuation 3
                else
                  let code := ((b.toNat % 0x08 * 0x40 + payload b₂) * 0x40 + payload b₃) * 0x40 +
                    payload b₄
                  (Char.ofNat code :: ·) <$> decodeFrom (position + 4) rest₄

/-- The characters that a sequence of bytes stands for, or its first fault. -/
def decode (bytes : List UInt8) : Except Fault (List Char) := decodeFrom 0 bytes

end Scenario.Text.Utf8
