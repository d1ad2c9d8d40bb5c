import Scenario.Calendar
import Scenario.Yaml.Node

/-! # What plain scalars denote

A plain scalar without a tag has the kind of value whose form it has; a text has any form. -/

namespace Scenario.Yaml

/-- Whether a character may be inside a number: a digit or a low line. -/
def isLooseDigit (c : Char) : Bool := c.isDigit || c = '_'

/-- The characters after a sign, if there is one. -/
def dropSign : List Char → List Char
  | c :: rest => if c = '+' ∨ c = '-' then rest else c :: rest
  | [] => []

/-- Whether characters are parts of base sixty, each after a colon: one or two digits, the first of
two below six. -/
def areSixties : List Char → Bool
  | ':' :: a :: b :: rest =>
    if b.isDigit then '0' ≤ a && a ≤ '5' && (rest.isEmpty || areSixties rest)
    else a.isDigit && areSixties (b :: rest)
  | [':', a] => a.isDigit
  | _ => false

/-- The words for truth values. -/
def truthWords : List (String × Bool) :=
  [("yes", true), ("no", false), ("true", true), ("false", false), ("on", true), ("off", false)]

/-- A word in small letters, with a capital first letter, and in capitals. -/
def spellings (word : String) : List String := [word, word.capitalize, word.toUpper]

/-- Whether a scalar has the form of a truth value. -/
def isBoolForm (s : String) : Bool := truthWords.any fun w => (spellings w.1).contains s

/-- Whether a scalar has the form of an integer: binary, octal, decimal, in base sixteen or in base
sixty. -/
def isIntForm (cs : List Char) : Bool :=
  match dropSign cs with
  | '0' :: 'b' :: rest => !rest.isEmpty && rest.all fun c => c = '0' || c = '1' || c = '_'
  | '0' :: 'x' :: rest =>
    !rest.isEmpty && rest.all fun c =>
      isLooseDigit c || ('a' ≤ c && c ≤ 'f') || ('A' ≤ c && c ≤ 'F')
  | '0' :: rest => rest.all fun c => ('0' ≤ c && c ≤ '7') || c = '_'
  | c :: rest =>
    c.isDigit && (rest.all isLooseDigit || areSixties (rest.dropWhile isLooseDigit))
  | [] => false

/-- Whether characters are a signed exponent, or there are none. -/
def isExponent : List Char → Bool
  | [] => true
  | e :: sign :: rest =>
    (e = 'e' || e = 'E') && (sign = '+' || sign = '-') && !rest.isEmpty && rest.all Char.isDigit
  | _ => false

/-- Whether a scalar has the form of a number with a point. -/
def isFloatForm (cs : List Char) : Bool :=
  let body := dropSign cs
  let whole := body.takeWhile isLooseDigit
  let startsWithDigit := (whole.head?.map Char.isDigit).getD false
  let positional := match body.dropWhile isLooseDigit with
    | '.' :: rest => startsWithDigit && isExponent (rest.dropWhile isLooseDigit)
    | ':' :: rest =>
      let parts := (':' :: rest).takeWhile (· ≠ '.')
      startsWithDigit && areSixties parts &&
        match (':' :: rest).dropWhile (· ≠ '.') with
        | '.' :: fraction => fraction.all isLooseDigit
        | _ => false
    | _ => false
  let leadingPoint := match cs with
    | '.' :: d :: rest => d.isDigit && isExponent (rest.dropWhile isLooseDigit)
    | _ => false
  positional || leadingPoint || [".inf", ".Inf", ".INF"].contains (String.ofList body) ||
    [".nan", ".NaN", ".NAN"].contains (String.ofList cs)

/-- Whether a scalar has the form of nothing. -/
def isNullForm (s : String) : Bool := ["", "~", "null", "Null", "NULL"].contains s

/-- The parts of a date or time as they are written. -/
structure Stamp where
  year : List Char
  month : List Char
  day : List Char
  /-- Hours, minutes, seconds, and the digits after the point. -/
  time : Option (List Char × List Char × List Char × List Char)
  /-- The distance to universal time in minutes. -/
  offset : Option Int
deriving DecidableEq, Repr

/-- A number of at least one and at most `most` digits. -/
def takeDigits (least most : Nat) (cs : List Char) : Option (List Char × List Char) :=
  let digits := (cs.take most).takeWhile Char.isDigit
  if digits.length < least then none else some (digits, cs.drop digits.length)

/-- The characters after a given one. -/
def after (x : Char) : List Char → Option (List Char)
  | c :: rest => if c = x then some rest else none
  | [] => none

/-- The number that digits denote. -/
def number (cs : List Char) : Nat := cs.foldl (fun n d => n * 10 + (d.toNat - '0'.toNat)) 0

/-- The distance to universal time at the end of a stamp. -/
def stampOffset? (cs : List Char) : Option (Option Int) :=
  match cs.dropWhile fun c => c = ' ' || c = '\t' with
  | [] => if cs.isEmpty then some none else none
  | ['Z'] => some (some 0)
  | sign :: rest =>
    if sign = '+' ∨ sign = '-' then do
      let (hours, rest) ← takeDigits 1 2 rest
      let minutes ← if rest.isEmpty then some [] else do
        let (minutes, rest) ← takeDigits 2 2 (← after ':' rest)
        if rest.isEmpty then some minutes else none
      let n : Int := number hours * 60 + number minutes
      return some (if sign = '-' then -n else n)
    else none

/-- The time in a stamp, after its date. -/
def stampTime? (cs : List Char) : Option (List Char) :=
  match cs with
  | c :: rest =>
    if c = 'T' ∨ c = 't' then some rest
    else if c = ' ' ∨ c = '\t' then some (rest.dropWhile fun c => c = ' ' || c = '\t')
    else none
  | [] => none

/-- The parts of a scalar that has the form of a date or time. -/
def Stamp.ofChars? (cs : List Char) : Option Stamp := do
  let (year, rest) ← takeDigits 4 4 cs
  let (month, rest) ← takeDigits 1 2 (← after '-' rest)
  let (day, rest) ← takeDigits 1 2 (← after '-' rest)
  if rest.isEmpty then return ⟨year, month, day, none, none⟩
  else
    let (hour, rest) ← takeDigits 1 2 (← stampTime? rest)
    let (minute, rest) ← takeDigits 2 2 (← after ':' rest)
    let (second, rest) ← takeDigits 2 2 (← after ':' rest)
    let (fraction, rest) := match rest with
      | '.' :: r => (r.takeWhile Char.isDigit, r.dropWhile Char.isDigit)
      | r => ([], r)
    let offset ← stampOffset? rest
    return ⟨year, month, day, some (hour, minute, second, fraction), offset⟩

/-- Whether a scalar has the form of a date or time; a date alone has two digits for the month and
for the day. -/
def isTimestampForm (cs : List Char) : Bool :=
  match Stamp.ofChars? cs with
  | some s => s.time.isSome || (s.month.length == 2 && s.day.length == 2)
  | none => false

/-- The characters without a line feed at the end. -/
def dropFinalBreak (cs : List Char) : List Char :=
  if cs.getLast? = some '\n' then cs.dropLast else cs

/-- The kind of value that a scalar denotes which has its form, perhaps with a line feed after
it. -/
def implicitTag (s : String) : Tag :=
  let cs := dropFinalBreak s.toList
  let form := String.ofList cs
  if s = "\n" then .text
  else if isBoolForm form then .bool
  else if isFloatForm cs then .float
  else if isIntForm cs then .int
  else if form = "<<" then .merge
  else if isNullForm form then .null
  else if isTimestampForm cs then .timestamp
  else if form = "=" then .value
  else if ["!", "&", "*"].contains form then .unknown
  else .text

end Scenario.Yaml
