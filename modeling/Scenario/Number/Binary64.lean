/-! # Binary floating-point numbers with 53 significant bits

A finite number is kept as an exact product `mantissa * 2 ^ exponent`, so that rounding,
comparison and the choice of digits are questions about natural numbers. -/

namespace Scenario

/-- A floating-point number of 64 bits: a finite one is `± mantissa * 2 ^ exponent`. -/
inductive Binary64 where
  | nan
  | infinity (negative : Bool)
  | finite (negative : Bool) (mantissa : Nat) (exponent : Int)
deriving DecidableEq, Repr

namespace Binary64

/-- The exponent of the smallest positive number. -/
def minExponent : Int := -1074

/-- The greatest exponent of a number written with all its bits. -/
def maxExponent : Int := 971

/-- Positive zero. -/
def zero : Binary64 := .finite false 0 minExponent

/-- `n * 2 ^ e` for a nonnegative `e`, and `n` otherwise. -/
def scaleUp (n : Nat) (e : Int) : Nat := n * Nat.pow 2 e.toNat

/-- The quotient `num / den`, rounded to the nearest natural number, a half to the even one. -/
def roundQuotient (num den : Nat) : Nat :=
  let q := num / den
  let r := num % den
  if 2 * r < den then q else if den < 2 * r then q + 1 else q + q % 2

/-- The number nearest to `± num / den`, of two equally near ones the one with even mantissa;
what is beyond the greatest finite number becomes infinite. -/
def ofRatio (negative : Bool) (num den : Nat) : Binary64 :=
  if num = 0 then .finite negative 0 minExponent
  else
    let guess : Int := (num.log2 : Int) - (den.log2 : Int) - 52
    let exact := scaleUp num (-guess) / scaleUp den guess
    let exponent := max minExponent (if exact < Nat.pow 2 52 then guess - 1 else guess)
    let mantissa := roundQuotient (scaleUp num (-exponent)) (scaleUp den exponent)
    let (mantissa, exponent) :=
      if mantissa = Nat.pow 2 53 then (Nat.pow 2 52, exponent + 1) else (mantissa, exponent)
    if maxExponent < exponent then .infinity negative else .finite negative mantissa exponent

/-- The number nearest to `± digits * 10 ^ exponent`. Far beyond either end of the range the
answer is known without the power. -/
def ofDecimal (negative : Bool) (digits : Nat) (exponent : Int) : Binary64 :=
  let size : Int := exponent + (Nat.toDigits 10 digits).length
  if digits = 0 ∨ size < -400 then .finite negative 0 minExponent
  else if 400 < size then .infinity negative
  else ofRatio negative (digits * Nat.pow 10 exponent.toNat) (Nat.pow 10 (-exponent).toNat)

/-- The number nearest to an integer. -/
def ofInt (n : Int) : Binary64 := ofRatio (n < 0) n.natAbs 1

/-- The integer that a finite number is, if it is one. -/
def toInt? : Binary64 → Option Int
  | .finite negative mantissa exponent =>
    let den := Nat.pow 2 (-exponent).toNat
    if mantissa % den = 0 then
      let n : Int := scaleUp (mantissa / den) exponent
      some (if negative then -n else n)
    else none
  | _ => none

/-- Whether a number is neither infinite nor `nan`. -/
def isFinite : Binary64 → Bool
  | .finite .. => true
  | _ => false

/-- The sign is turned. -/
def negate : Binary64 → Binary64
  | .nan => .nan
  | .infinity s => .infinity (!s)
  | .finite s m e => .finite (!s) m e

/-- The number `± mantissa * 2 ^ exponent` in units of `2 ^ unit`, where `unit` is at most the
exponent. -/
private def inUnits (negative : Bool) (mantissa : Nat) (exponent unit : Int) : Int :=
  let n : Int := scaleUp mantissa (exponent - unit)
  if negative then -n else n

/-- The sum, rounded to the nearest number. -/
def add : Binary64 → Binary64 → Binary64
  | .finite s m e, .finite t n f =>
    let unit := min e f
    let sum := inUnits s m e unit + inUnits t n f unit
    if sum = 0 then .finite (s && t) 0 minExponent
    else ofRatio (sum < 0) (scaleUp sum.natAbs unit) (Nat.pow 2 (-unit).toNat)
  | .infinity s, .infinity t => if s = t then .infinity s else .nan
  | .infinity s, .finite .. => .infinity s
  | .finite .., .infinity t => .infinity t
  | .nan, _ => .nan
  | _, .nan => .nan

/-- The product, rounded to the nearest number. -/
def mul : Binary64 → Binary64 → Binary64
  | .finite s m e, .finite t n f =>
    ofRatio (s != t) (scaleUp (m * n) (e + f)) (Nat.pow 2 (-(e + f)).toNat)
  | .infinity s, .infinity t => .infinity (s != t)
  | .infinity s, .finite t n _ => if n = 0 then .nan else .infinity (s != t)
  | .finite s m _, .infinity t => if m = 0 then .nan else .infinity (s != t)
  | .nan, _ => .nan
  | _, .nan => .nan

/-- Equality as numbers: zero has no sign, and `nan` equals nothing. -/
def sameNumber : Binary64 → Binary64 → Bool
  | .finite s m e, .finite t n f =>
    let unit := min e f
    inUnits s m e unit == inUnits t n f unit
  | .infinity s, .infinity t => s == t
  | _, _ => false

end Binary64

end Scenario
