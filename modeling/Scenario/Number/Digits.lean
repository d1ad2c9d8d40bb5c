/-! # Digits of whole numbers -/

namespace Scenario.Digits

/-- The natural number that decimal digits denote. -/
def value (ds : List Char) : Nat := ds.foldl (fun n d => n * 10 + (d.toNat - '0'.toNat)) 0

/-- The greatest number of decimal digits of a whole number that is read. -/
def maxCount : Nat := 4300

/-- A whole number with more decimal digits than are read or written. -/
inductive Fault where
  /-- So many digits are not read. -/
  | read (count : Nat)
  /-- The number is not written. -/
  | write
deriving DecidableEq, Repr

/-- The message for a whole number with too many digits. -/
def Fault.message (f : Fault) : String :=
  let count := match f with
    | .read count => s!": value has {count} digits"
    | .write => ""
  s!"Exceeds the limit ({maxCount} digits) for integer string conversion{count}; " ++
    "use sys.set_int_max_str_digits() to increase the limit"

/-- Whether a whole number has more digits than are written. -/
def isLong (n : Int) : Bool := Nat.pow 10 maxCount ≤ n.natAbs

/-- The value of a digit in base sixteen. -/
def ofHex? (c : Char) : Option Nat :=
  if c.isDigit then some (c.toNat - '0'.toNat)
  else if 'a' ≤ c ∧ c ≤ 'f' then some (c.toNat - 'a'.toNat + 10)
  else if 'A' ≤ c ∧ c ≤ 'F' then some (c.toNat - 'A'.toNat + 10)
  else none

/-- The digits of `n` in base sixteen, with zeros in front up to a width. -/
def hexPadded (width n : Nat) : List Char :=
  let digits := Nat.toDigits 16 n
  List.replicate (width - digits.length) '0' ++ digits

end Scenario.Digits
