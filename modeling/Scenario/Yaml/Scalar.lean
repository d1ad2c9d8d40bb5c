import Scenario.Number.Digits
import Scenario.Text.LowerCase
import Scenario.Text.Numeral
import Scenario.Value
import Scenario.Yaml.Implicit

/-! # The values of scalars

A scalar with a tag is turned into a value of that kind, whether its tag was written or follows
from its form. Low lines inside numbers do not count. -/

namespace Scenario.Yaml

/-- The scalar has not the form of its kind. -/
def faulty {α : Type} (fault : ScalarFault) : Except Error α := .error (.scalar fault)

/-- Whether a character may stand around a number. -/
def isNumberBlank (c : Char) : Bool := c = ' ' || (0x09 ≤ c.toNat && c.toNat ≤ 0x0d)

/-- A numeral with the common digits, without the blanks around it. -/
def numeral (cs : List Char) : List Char :=
  (((cs.map Text.commonNumeral).dropWhile isNumberBlank).reverse.dropWhile isNumberBlank).reverse

/-- The value of a digit in a base. -/
def digitIn? (base : Nat) (c : Char) : Option Nat :=
  let n := c.toLower.toNat
  let d :=
    if '0'.toNat ≤ n ∧ n ≤ '9'.toNat then n - '0'.toNat
    else if 'a'.toNat ≤ n ∧ n ≤ 'z'.toNat then n - 'a'.toNat + 10
    else base
  if d < base then some d else none

/-- The natural number that digits in a base denote, of which there is at least one. -/
def naturalIn? (base : Nat) (cs : List Char) : Option Nat :=
  if cs.isEmpty then none
  else (cs.mapM (digitIn? base)).map fun ds => ds.foldl (fun n d => n * base + d) 0

/-- The mark that a base may have in front of its digits. -/
def dropBaseMark (base : Nat) : List Char → List Char
  | '0' :: c :: rest =>
    let mark := c.toLower
    if (base = 16 ∧ mark = 'x') ∨ (base = 8 ∧ mark = 'o') ∨ (base = 2 ∧ mark = 'b') then rest
    else '0' :: c :: rest
  | cs => cs

/-- The integer that a text denotes in a base, with blanks around it and a sign in front. Too many
digits are told whatever follows them; of the bases only ten has a limit. -/
def integerIn (base : Nat) (cs : List Char) : Except Error Int :=
  let body := numeral cs
  let digits := dropSign body
  let count := (digits.takeWhile Char.isDigit).length
  if base = 10 ∧ Digits.maxCount < count then faulty (.longInteger (.read count))
  else match naturalIn? base (dropBaseMark base digits) with
    | some n => .ok (if body.head? = some '-' then -(n : Int) else n)
    | none => faulty (.notInteger base (String.ofList cs))

/-- A number without its low lines, and its sign apart; there is at least one character. -/
def signed (cs : List Char) : Except Error (Bool × List Char) :=
  match cs.filter (· ≠ '_') with
  | [] => faulty .emptyNumber
  | '-' :: rest => .ok (true, rest)
  | '+' :: rest => .ok (false, rest)
  | rest => .ok (false, rest)

/-- An integer: binary, octal, decimal, in base sixteen or in base sixty, by its beginning. -/
def intOf (text : String) : Except Error Int := do
  let (negative, body) ← signed text.toList
  let n ← match body with
    | [] => faulty .emptyNumber
    | ['0'] => pure 0
    | '0' :: 'b' :: rest => integerIn 2 rest
    | '0' :: 'x' :: rest => integerIn 16 rest
    | '0' :: _ => integerIn 8 body
    | _ =>
      if body.contains ':' then do
        let parts ← (body.splitOn ':').mapM (integerIn 10)
        pure (parts.foldl (fun n part => n * 60 + part) 0)
      else integerIn 10 body
  return if negative then -n else n

/-- A decimal number with an optional point and exponent. -/
def decimal? (cs : List Char) : Option Binary64 :=
  let body := numeral cs
  let negative := body.head? = some '-'
  let rest := dropSign body
  match (String.ofList rest).toLower with
  | "inf" | "infinity" => some (.infinity negative)
  | "nan" => some .nan
  | _ =>
    let whole := rest.takeWhile Char.isDigit
    let afterWhole := rest.dropWhile Char.isDigit
    let (fraction, afterFraction) := match afterWhole with
      | '.' :: r => (r.takeWhile Char.isDigit, r.dropWhile Char.isDigit)
      | r => ([], r)
    let exponent : Option Int := match afterFraction with
      | [] => some 0
      | e :: r =>
        let digits := dropSign r
        if (e = 'e' ∨ e = 'E') ∧ !digits.isEmpty ∧ digits.all Char.isDigit then
          let n : Int := Digits.value digits
          some (if r.head? = some '-' then -n else n)
        else none
    if (whole ++ fraction).isEmpty then none
    else exponent.map fun e =>
      .ofDecimal negative (Digits.value (whole ++ fraction)) (e - fraction.length)

/-- A decimal number. -/
def decimalOf (cs : List Char) : Except Error Binary64 :=
  match decimal? cs with
  | some x => .ok x
  | none => faulty (.notFloat (String.ofList cs))

/-- The number whose parts in base sixty are given, the last part first, on top of those before
them, of which `sum` is made and after which the places count `base`. -/
def sixties (sum : Binary64) (base : Int) : List Binary64 → Except Error Binary64
  | [] => .ok sum
  | part :: rest =>
    let place := Binary64.ofInt base
    if place.isFinite then sixties (Binary64.add sum (.mul part place)) (base * 60) rest
    else faulty .beyondFloat

/-- The letters of a floating-point number without its sign, in small letters. -/
def floatLetters (text : String) : Except Error (Bool × List Char) :=
  signed (Text.lowerCase (String.ofList (text.toList.filter (· ≠ '_')))).toList

/-- The word for what is no number. -/
def nanWord : List Char := ['.', 'n', 'a', 'n']

/-- Whether a text is the word for what is no number. -/
def isNanWord (text : String) : Bool :=
  match floatLetters text with
  | .ok (_, letters) => letters = nanWord
  | .error _ => false

/-- A floating-point number, decimal or in base sixty, or one that is not finite. -/
def floatOf (text : String) : Except Error Binary64 := do
  let (negative, body) ← floatLetters text
  let sign (x : Binary64) : Binary64 := if negative then x.negate else x
  if body = ".inf".toList then return sign (.infinity false)
  else if body = nanWord then return .nan
  else if body.contains ':' then
    let parts ← (body.splitOn ':').mapM decimalOf
    return sign (← sixties .zero 1 parts.reverse)
  else return sign (← decimalOf body)

/-- A truth value, in letters of any case. -/
def boolOf (text : String) : Except Error Bool :=
  let word := Text.lowerCase text
  match truthWords.lookup word with
  | some b => .ok b
  | none => faulty (.notBool word)

/-- A fraction of a second as microseconds. -/
def microseconds (digits : List Char) : Nat :=
  let six := digits.take 6
  number (six ++ List.replicate (6 - six.length) '0')

/-- Something of the calendar, which the numbers of a scalar have to be. -/
def check {α : Type} : Except CalendarFault α → Except Error α
  | .ok a => .ok a
  | .error fault => faulty (.calendar fault)

/-- A date, or a date with a time. -/
def momentOf (text : String) : Except Error Value :=
  match Stamp.ofChars? (dropFinalBreak text.toList) with
  | none => faulty .notTimestamp
  | some s =>
    match s.time with
    | none => do
      return .date (← check (Date.ofNumbers (number s.year) (number s.month) (number s.day)))
    | some (hour, minute, second, fraction) => do
      if let some n := s.offset then
        if 1440 ≤ n.natAbs then faulty (.calendar (.offset n))
      let date ← check (Date.ofNumbers (number s.year) (number s.month) (number s.day))
      let time ← check
        (TimeOfDay.ofNumbers (number hour) (number minute) (number second) (microseconds fraction))
      return .moment ⟨date, time, s.offset⟩

/-! ## Bytes as text of 64 letters -/

/-- The value of a letter. -/
def sixBits? (c : Char) : Option Nat :=
  if 'A' ≤ c ∧ c ≤ 'Z' then some (c.toNat - 'A'.toNat)
  else if 'a' ≤ c ∧ c ≤ 'z' then some (c.toNat - 'a'.toNat + 26)
  else if '0' ≤ c ∧ c ≤ '9' then some (c.toNat - '0'.toNat + 52)
  else if c = '+' then some 62
  else if c = '/' then some 63
  else none

/-- The bytes of the letters that are left. `filled` letters of a group of four have been read,
`left` holds the bits of the last one that are still to be used, and `pads` signs for a missing
letter have just been read. Other characters are passed over. -/
def decodeLetters (filled left pads : Nat) : List Char → Option (List UInt8)
  | [] => if filled = 0 then some [] else none
  | '=' :: rest =>
    if 2 ≤ filled then
      if 4 ≤ filled + pads + 1 then some [] else decodeLetters filled left (pads + 1) rest
    else decodeLetters filled left pads rest
  | c :: rest =>
    match sixBits? c with
    | none => decodeLetters filled left pads rest
    | some n =>
      match filled with
      | 0 => decodeLetters 1 n 0 rest
      | 1 => (UInt8.ofNat (left * 4 + n / 16) :: ·) <$> decodeLetters 2 (n % 16) 0 rest
      | 2 => (UInt8.ofNat (left * 16 + n / 4) :: ·) <$> decodeLetters 3 (n % 4) 0 rest
      | _ => (UInt8.ofNat (left * 64 + n) :: ·) <$> decodeLetters 0 0 0 rest

/-- Bytes written as letters of six bits. -/
def binaryOf (text : String) : Except Error (List UInt8) :=
  if text.toList.all fun c => c.toNat < 0x80 then
    match decodeLetters 0 0 0 text.toList with
    | some bytes => .ok bytes
    | none => .error .malformed
  else .error .malformed

/-- The value of a scalar with a tag. -/
def scalarValue (tag : Tag) (text : String) : Except Error Value :=
  match tag with
  | .null => .ok .null
  | .bool => .bool <$> boolOf text
  | .int => .int <$> intOf text
  | .float => .float <$> floatOf text
  | .binary => .bytes <$> binaryOf text
  | .timestamp => momentOf text
  | .text => .ok (.text text)
  | .sequence | .mapping | .set | .orderedMap | .pairs | .merge | .value | .unknown =>
    .error .malformed

end Scenario.Yaml
