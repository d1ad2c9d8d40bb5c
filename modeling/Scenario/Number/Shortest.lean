import Scenario.Number.Binary64

/-! # The shortest decimal that reads back

The digits of a floating-point number are the fewest that determine it, and of those the nearest.
How they are laid out is decided by `Layout`. -/

namespace Scenario

/-- The number `digits * 10 ^ exponent`. -/
structure Decimal where
  digits : Nat
  exponent : Int
deriving DecidableEq, Repr

namespace Decimal

/-- The order of `a * 10 ^ i` and `n * 2 ^ j`, found without rounding. -/
def compareScaled (a : Nat) (i : Int) (n : Nat) (j : Int) : Ordering :=
  compare (a * Nat.pow 10 i.toNat * Nat.pow 2 (-j).toNat)
    (n * Nat.pow 2 j.toNat * Nat.pow 10 (-i).toNat)

/-- Whether a decimal lies among the reals that round to `mantissa * 2 ^ exponent`: from halfway
to the number below to halfway to the number above, the ends included for an even mantissa. -/
def readsBack (mantissa : Nat) (exponent : Int) (d : Decimal) : Bool :=
  let narrow := mantissa == Nat.pow 2 52 && Binary64.minExponent < exponent
  let low := if narrow then 4 * mantissa - 1 else 4 * mantissa - 2
  let atLow := compareScaled d.digits d.exponent low (exponent - 2)
  let atHigh := compareScaled d.digits d.exponent (4 * mantissa + 2) (exponent - 2)
  let ends := mantissa % 2 == 0
  (atLow == .gt || (ends && atLow == .eq)) && (atHigh == .lt || (ends && atHigh == .eq))

/-- The whole part of `mantissa * 2 ^ exponent / 10 ^ grid`. -/
def floorOnGrid (mantissa : Nat) (exponent grid : Int) : Nat :=
  (mantissa * Nat.pow 2 exponent.toNat * Nat.pow 10 (-grid).toNat) /
    (Nat.pow 2 (-exponent).toNat * Nat.pow 10 grid.toNat)

/-- The least `k` with `mantissa * 2 ^ exponent < 10 ^ k`, searched upward from a bound below it. -/
def scale (mantissa : Nat) (exponent : Int) : Int :=
  let bits : Int := (mantissa.log2 : Int) + exponent
  let start : Int := (bits * 30103 / 100000) - 1
  let above (k : Int) : Bool := compareScaled 1 k mantissa exponent == .gt
  ((List.range 6).map fun (i : Nat) => start + (i : Int)).find? above |>.getD (start + 6)

/-- The decimal on the grid `10 ^ grid` that reads back, if there is one: the nearer of two, and
of two equally near ones the even. -/
def onGrid? (mantissa : Nat) (exponent grid : Int) : Option Decimal :=
  let low := floorOnGrid mantissa exponent grid
  let down : Decimal := ⟨low, grid⟩
  let up : Decimal := ⟨low + 1, grid⟩
  match readsBack mantissa exponent down, readsBack mantissa exponent up with
  | true, true =>
    match compareScaled (2 * low + 1) grid (2 * mantissa) exponent with
    | .gt => some down
    | .lt => some up
    | .eq => some (if low % 2 = 0 then down else up)
  | true, false => some down
  | false, true => some up
  | false, false => none

/-- Zeros at the end move into the exponent. -/
def stripZeros : Nat → Decimal → Decimal
  | 0, d => d
  | fuel + 1, d =>
    if d.digits % 10 = 0 ∧ d.digits ≠ 0 then stripZeros fuel ⟨d.digits / 10, d.exponent + 1⟩ else d

/-- The fewest digits that read back to the positive number `mantissa * 2 ^ exponent`; seventeen
always do. -/
def shortest (mantissa : Nat) (exponent : Int) : Decimal :=
  let k := scale mantissa exponent
  let hit := ((List.range 18).map fun (n : Nat) => k - (n : Int)).findSome?
    (onGrid? mantissa exponent)
  stripZeros 20 (hit.getD ⟨floorOnGrid mantissa exponent (k - 17), k - 17⟩)

/-- How the digits of a floating-point number are laid out. -/
structure Layout where
  /-- The least and the greatest power of ten of the first digit that is written positionally. -/
  least : Int
  greatest : Int
  /-- The number of digits of the exponent, at least. -/
  exponentWidth : Nat

/-- Numbers from 0.0001 up to 10^16 are written positionally, with a digit after the point; others
with a signed exponent of at least two digits. -/
def Layout.plain : Layout := ⟨-4, 15, 2⟩

private def padLeft (width : Nat) (s : String) : String :=
  String.ofList (List.replicate (width - s.length) '0') ++ s

/-- The text of a positive decimal. -/
def Layout.render (l : Layout) (d : Decimal) : String :=
  let text := toString d.digits
  let n := text.length
  let power : Int := d.exponent + n - 1
  if l.least ≤ power ∧ power ≤ l.greatest then
    if power < 0 then
      "0." ++ String.ofList (List.replicate (-power - 1).toNat '0') ++ text
    else
      let whole := (power + 1).toNat
      if n ≤ whole then text ++ String.ofList (List.replicate (whole - n) '0') ++ ".0"
      else String.ofList (text.toList.take whole) ++ "." ++ String.ofList (text.toList.drop whole)
  else
    let mantissa := String.ofList (text.toList.take 1) ++
      (if n = 1 then "" else "." ++ String.ofList (text.toList.drop 1))
    mantissa ++ "e" ++ (if power < 0 then "-" else "+") ++
      padLeft l.exponentWidth (toString power.natAbs)

end Decimal

/-- The text of a floating-point number: the shortest decimal that reads back. -/
def Binary64.text : Binary64 → String
  | .nan => "nan"
  | .infinity negative => if negative then "-inf" else "inf"
  | .finite negative mantissa exponent =>
    (if negative then "-" else "") ++
      if mantissa = 0 then "0.0"
      else Decimal.Layout.plain.render (Decimal.shortest mantissa exponent)

end Scenario
