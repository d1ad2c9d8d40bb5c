import Scenario.Number.Digits
import Scenario.Text.CodePoint
import Scenario.Text.Space
import Scenario.Text.Utf8
import Scenario.Validation

/-! # Reading texts, numbers and truth values

Texts are never made from other values. Whole numbers and truth values are also read from each
other, from floating-point numbers without a fraction, and from texts, if these are made of
characters. -/

namespace Scenario.Decoder

/-- A text, or bytes that encode one. -/
def text : Decoder String
  | .text s => .ok s
  | .bytes bs =>
    match Text.Utf8.decode bs with
    | .ok cs => .ok (Text.ofChars cs)
    | .error _ => Checked.fail .textEncoding
  | _ => Checked.fail .textType

/-- The greatest number of characters of an integer, its sign included. -/
def maxIntegerLength : Nat := Digits.maxCount

/-- An integer in its plain form: perhaps a minus, then digits without zeros in front. Of a text in
another form, too many digits are told whatever follows them. -/
def plainInteger (cs : List Char) : Except Complaint Int :=
  let body := if cs.head? = some '-' then cs.drop 1 else cs
  let digits := if body.head? = some '0' then ['0'] else body.takeWhile Char.isDigit
  if maxIntegerLength < cs.length - body.length + digits.length then .error .intSize
  else if digits.isEmpty ∨ digits.length < body.length then .error .intParsing
  else
    let n : Int := Digits.value digits
    .ok (if cs.head? = some '-' then -n else n)

/-- Whether a digit stands for more than nothing. -/
def isCounting (c : Char) : Bool := '1' ≤ c && c ≤ '9'

/-- What is left after zeros and low lines, the last of which is `last`: a number with or without
its minus, or a fraction with the character before it. Without either the last one is left. -/
def afterZeros (last : Char) : List Char → Option (List Char)
  | [] => some [last]
  | c :: rest =>
    if c = '0' ∨ c = '_' then afterZeros c rest
    else if isCounting c ∨ c = '-' then some (c :: rest)
    else if c = '.' then some (last :: c :: rest)
    else none

/-- A number without the zeros in front of it. -/
def dropLeadingZeros : List Char → Option (List Char)
  | [] => none
  | c :: rest =>
    if c = '0' then afterZeros c rest
    else if isCounting c ∨ c = '-' then some (c :: rest)
    else none

/-- A text without a point and zeros after it at its end. -/
def dropZeroFraction (cs : List Char) : List Char :=
  match cs.dropWhile (· ≠ '.') with
  | _ :: zeros => if !zeros.isEmpty && zeros.all (· = '0') then cs.takeWhile (· ≠ '.') else cs
  | [] => cs

/-- A text without low lines, each of which stands alone between two other characters; else the
text as it is. -/
def dropLowLines (cs : List Char) : List Char :=
  if (cs.splitOn '_').any List.isEmpty then cs else cs.filter (· ≠ '_')

/-- The plain form of an integer that is written with white space around it, a plus, zeros in
front, a fraction of zeros or low lines between its digits. -/
def simplified (cs : List Char) : Option (List Char) :=
  let number (cs : List Char) : Option (List Char) :=
    (dropLeadingZeros cs).map fun cs => dropLowLines (dropZeroFraction cs)
  match Text.trim cs with
  | '-' :: rest => (number rest).map ('-' :: ·)
  | '+' :: rest => if rest.head? = some '-' then none else number rest
  | cs => number cs

/-- An integer from a text, which is read as it is or, if it has another form, in its plain form. -/
def intOfText (cs : List Char) : Checked Int :=
  let read := match plainInteger cs with
    | .error .intParsing => ((simplified cs).map plainInteger).getD (.error .intParsing)
    | read => read
  match read with
  | .ok n => .ok n
  | .error complaint => Checked.fail complaint

/-- Signed words of 64 bits reach from minus this number to below it. -/
def wordBound : Int := 9223372036854775808

/-- Whether an integer lies strictly inside the range of signed words of 64 bits. -/
def insideWord (n : Int) : Bool := -wordBound < n && n < wordBound

/-- An integer from a floating-point number. -/
def intOfFloat (x : Binary64) : Checked Int :=
  if !x.isFinite then Checked.fail .finiteNumber
  else match x.toInt? with
    | none => Checked.fail .intFromFraction
    | some n => if insideWord n then .ok n else Checked.fail .intSize

/-- A whole number. -/
def int : Decoder Int
  | .int n => .ok n
  | .bool b => .ok (if b then 1 else 0)
  | .float x => intOfFloat x
  | .text s => if Text.hasHalf s then Checked.fail .textEncoding else intOfText s.toList
  | .bytes bs =>
    match Text.Utf8.decode bs with
    | .ok cs => intOfText cs
    | .error _ => Checked.fail .intParsing
  | _ => Checked.fail .intType

/-- The texts that are read as true, in small letters. -/
def trueWords : List String := ["1", "t", "y", "yes", "on", "true"]

/-- The texts that are read as false, in small letters. -/
def falseWords : List String := ["0", "f", "n", "no", "off", "false"]

/-- A truth value from a text, in letters of any case. -/
def boolOfText (s : String) : Checked Bool :=
  let word := s.toLower
  if trueWords.contains word then .ok true
  else if falseWords.contains word then .ok false
  else Checked.fail .boolParsing

/-- A truth value from zero or one. -/
def boolOfInt (n : Int) : Checked Bool :=
  if n = 0 then .ok false else if n = 1 then .ok true else Checked.fail .boolParsing

/-- A truth value. -/
def bool : Decoder Bool
  | .bool b => .ok b
  | .text s => if Text.hasHalf s then Checked.fail .textEncoding else boolOfText s
  | .bytes bs =>
    match Text.Utf8.decode bs with
    | .ok cs => boolOfText (String.ofList cs)
    | .error _ => Checked.fail .boolParsing
  | .int n => if insideWord n || n == -wordBound then boolOfInt n else Checked.fail .boolType
  | .float x =>
    match x.toInt? with
    | some n => if insideWord n then boolOfInt n else Checked.fail .boolType
    | none => Checked.fail .boolType
  | _ => Checked.fail .boolType

/-- One of several named values. -/
def choice {α : Type} (names : List String) (ofName? : String → Option α) : Decoder α
  | .text s =>
    match ofName? s with
    | some a => .ok a
    | none => Checked.fail (.choice names)
  | _ => Checked.fail (.choice names)

/-- The one text allowed. -/
def literal (value : String) : Decoder Unit
  | .text s => if s = value then .ok () else Checked.fail (.literal value)
  | _ => Checked.fail (.literal value)

end Scenario.Decoder
