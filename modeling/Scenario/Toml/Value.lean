import Scenario.Number.Digits
import Scenario.Text.CodePoint
import Scenario.Value

/-! # Values in TOML

Each reader takes the characters that are left and gives what it read with the characters after it,
or nothing if they have not the form. -/

namespace Scenario.Toml

/-- Why a text is no document. -/
inductive Fault where
  | malformed
  /-- A decimal number without a fraction has too many digits. -/
  | longInteger (fault : Digits.Fault)
deriving DecidableEq, Repr

/-- A reading that has to be there. -/
def expect {α : Type} : Option α → Except Fault α
  | some a => .ok a
  | none => .error .malformed

/-- Whether a character is a blank inside a line. -/
def isBlank (c : Char) : Bool := c = ' ' || c = '\t'

/-- The characters from the first one that is not a blank. -/
def skipBlanks (cs : List Char) : List Char := cs.dropWhile isBlank

/-- Whether a character is a control other than a tabulator. -/
def isControl (c : Char) : Bool := (c.toNat < 0x20 && c != '\t') || c.toNat = 0x7f

/-- The characters from the end of a comment on, if there is one; a comment holds no controls. -/
def skipComment : List Char → Option (List Char)
  | '#' :: rest =>
    if (rest.takeWhile (· ≠ '\n')).any isControl then none else some (rest.dropWhile (· ≠ '\n'))
  | cs => some cs

/-- The characters after blanks, line ends and comments. -/
def skipSpace : Nat → List Char → Option (List Char)
  | 0, cs => some cs
  | fuel + 1, cs =>
    match cs.dropWhile fun c => isBlank c || c = '\n' with
    | '#' :: rest => (skipComment ('#' :: rest)).bind (skipSpace fuel)
    | rest => some rest

/-! ## Texts -/

/-- The character that a short escape stands for. -/
def shortEscape? : Char → Option Char
  | 'b' => some (Char.ofNat 0x08)
  | 't' => some '\t'
  | 'n' => some '\n'
  | 'f' => some (Char.ofNat 0x0c)
  | 'r' => some '\r'
  | '"' => some '"'
  | '\\' => some '\\'
  | _ => none

/-- A character by its number, in `width` digits; halves of pairs are none. -/
def numberedChar (width : Nat) (cs : List Char) : Option (Char × List Char) := do
  let digits ← (cs.take width).mapM Digits.ofHex?
  let code := digits.foldl (fun n d => n * 16 + d) 0
  if digits.length < width ∨ 0x110000 ≤ code ∨ (0xD800 ≤ code ∧ code < 0xE000) then none
  else some (Char.ofNat code, cs.drop width)

/-- What follows a backslash. In a text of several lines, a backslash at the end of a line joins
it with the next text. -/
def escape (multiline : Bool) : List Char → Option (List Char × List Char)
  | [] => none
  | c :: rest =>
    if multiline ∧ (isBlank c ∨ c = '\n') then
      let rest := if c = '\n' then '\n' :: rest else skipBlanks rest
      match rest with
      | [] => some ([], [])
      | '\n' :: rest => some ([], rest.dropWhile fun c => isBlank c || c = '\n')
      | _ => none
    else if c = 'u' then (numberedChar 4 rest).map fun p => ([p.1], p.2)
    else if c = 'U' then (numberedChar 8 rest).map fun p => ([p.1], p.2)
    else (shortEscape? c).map fun e => ([e], rest)

/-- The inside of a text between double quotes, and the characters after the closing ones. -/
def basicBody (multiline : Bool) : Nat → List Char → Option (List Char × List Char)
  | 0, _ => none
  | fuel + 1, cs =>
    match cs with
    | [] => none
    | '"' :: rest =>
      if !multiline then some ([], rest)
      else match rest with
        | '"' :: '"' :: rest => some ([], rest)
        | _ => (basicBody multiline fuel rest).map fun p => ('"' :: p.1, p.2)
    | '\\' :: rest => do
      let (chars, rest) ← escape multiline rest
      let (more, rest) ← basicBody multiline fuel rest
      return (chars ++ more, rest)
    | c :: rest =>
      if isControl c && !(multiline && c = '\n') then none
      else (basicBody multiline fuel rest).map fun p => (c :: p.1, p.2)

/-- The inside of a text of several lines between single quotes. -/
def literalBody : List Char → Option (List Char × List Char)
  | '\'' :: '\'' :: '\'' :: rest => some ([], rest)
  | c :: rest =>
    if isControl c && c != '\n' then none
    else (literalBody rest).map fun p => (c :: p.1, p.2)
  | [] => none

/-- Up to two quotes in front of the closing ones belong to a text of several lines. -/
def extraQuotes (quote : Char) : Option (List Char × List Char) → Option (List Char × List Char)
  | none => none
  | some (text, rest) =>
    let extra := (rest.take 2).takeWhile (· = quote)
    some (text ++ extra, rest.drop extra.length)

/-- The characters after a line end that stands here. -/
def dropLineEnd : List Char → List Char
  | '\n' :: rest => rest
  | cs => cs

/-- A text on one line. -/
def lineText : List Char → Option (String × List Char)
  | '"' :: rest =>
    (basicBody false (rest.length + 1) rest).map fun p => (Text.ofChars p.1, p.2)
  | '\'' :: rest =>
    let body := rest.takeWhile (· ≠ '\'')
    match rest.dropWhile (· ≠ '\'') with
    | '\'' :: rest => if body.any isControl then none else some (Text.ofChars body, rest)
    | _ => none
  | _ => none

/-- A text. -/
def text (cs : List Char) : Option (String × List Char) :=
  match cs with
  | '"' :: '"' :: '"' :: rest =>
    (extraQuotes '"' (basicBody true (rest.length + 1) (dropLineEnd rest))).map
      fun p => (Text.ofChars p.1, p.2)
  | '\'' :: '\'' :: '\'' :: rest =>
    (extraQuotes '\'' (literalBody (dropLineEnd rest))).map fun p => (Text.ofChars p.1, p.2)
  | _ => lineText cs

/-! ## Numbers -/

/-- Digits of a base with single low lines between them, of which there is at least one. -/
def digitRun (isDigit : Char → Bool) : List Char → List Char × List Char
  | [] => ([], [])
  | '_' :: d :: rest => if isDigit d then
      let (ds, rest) := digitRun isDigit rest
      (d :: ds, rest)
    else ([], '_' :: d :: rest)
  | d :: rest => if isDigit d then
      let (ds, rest) := digitRun isDigit rest
      (d :: ds, rest)
    else ([], d :: rest)

/-- Digits of a base that begin with a digit. -/
def digits? (isDigit : Char → Bool) (cs : List Char) : Option (List Char × List Char) :=
  if (cs.head?.map isDigit).getD false then some (digitRun isDigit cs) else none

/-- The natural number that digits of a base denote. -/
def inBase (base : Nat) (ds : List Char) : Int :=
  ((ds.filterMap Digits.ofHex?).foldl (fun n d => n * base + d) 0 : Nat)

/-- A number with a mark for its base. -/
def markedNumber : List Char → Option (Value × List Char)
  | '0' :: 'x' :: rest =>
    (digits? (fun c => (Digits.ofHex? c).isSome) rest).map fun p => (.int (inBase 16 p.1), p.2)
  | '0' :: 'b' :: rest =>
    (digits? (fun c => c = '0' || c = '1') rest).map fun p => (.int (inBase 2 p.1), p.2)
  | '0' :: 'o' :: rest =>
    (digits? (fun c => '0' ≤ c && c ≤ '7') rest).map fun p => (.int (inBase 8 p.1), p.2)
  | _ => none

/-- The digits after a point, if there are any. -/
def fraction (cs : List Char) : List Char × List Char :=
  match cs with
  | '.' :: rest => (digits? Char.isDigit rest).getD ([], cs)
  | _ => ([], cs)

/-- The exponent, if there is one. -/
def exponent (cs : List Char) : Option Int × List Char :=
  match cs with
  | e :: rest =>
    if e = 'e' ∨ e = 'E' then
      let (negative, body) := match rest with
        | '-' :: r => (true, r)
        | '+' :: r => (false, r)
        | r => (false, r)
      match digits? Char.isDigit body with
      | some (ds, rest) => (some (if negative then -inBase 10 ds else inBase 10 ds), rest)
      | none => (none, cs)
    else (none, cs)
  | [] => (none, cs)

/-- A decimal number. -/
def decimalNumber (cs : List Char) : Except Fault (Value × List Char) := do
  let (negative, body) := match cs with
    | '-' :: r => (true, r)
    | '+' :: r => (false, r)
    | r => (false, r)
  let (whole, rest) ← match body with
    | '0' :: rest => pure (['0'], rest)
    | _ => expect (digits? Char.isDigit body)
  let (frac, rest) := fraction rest
  let (power, rest) := exponent rest
  if frac.isEmpty && power.isNone then
    if Digits.maxCount < whole.length then .error (.longInteger (.read whole.length))
    else
      let n := inBase 10 whole
      return (.int (if negative then -n else n), rest)
  else
    let digits := (inBase 10 (whole ++ frac)).toNat
    return (.float (.ofDecimal negative digits (power.getD 0 - frac.length)), rest)

/-- A number that is not finite. -/
def specialNumber (cs : List Char) : Option (Value × List Char) :=
  let (negative, body) := match cs with
    | '-' :: r => (true, r)
    | '+' :: r => (false, r)
    | r => (false, r)
  match body with
  | 'i' :: 'n' :: 'f' :: rest => some (.float (.infinity negative), rest)
  | 'n' :: 'a' :: 'n' :: rest => some (.float .nan, rest)
  | _ => none

/-! ## Dates and times -/

/-- A number of exactly `width` digits inside bounds. -/
def fixedNumber (width low high : Nat) (cs : List Char) : Option (Nat × List Char) :=
  let ds := cs.take width
  let n := Digits.value ds
  if ds.length = width ∧ ds.all Char.isDigit ∧ low ≤ n ∧ n ≤ high then some (n, cs.drop width)
  else none

/-- The characters after a given one. -/
def after (x : Char) : List Char → Option (List Char)
  | c :: rest => if c = x then some rest else none
  | [] => none

/-- A time of day; of a fraction of a second six digits count. -/
def timeOfDay (cs : List Char) : Option (TimeOfDay × List Char) := do
  let (hour, rest) ← fixedNumber 2 0 23 cs
  let (minute, rest) ← fixedNumber 2 0 59 (← after ':' rest)
  let (second, rest) ← fixedNumber 2 0 59 (← after ':' rest)
  match rest with
  | '.' :: more =>
    match more.takeWhile Char.isDigit with
    | [] => return (⟨hour, minute, second, 0⟩, rest)
    | ds =>
      let six := ds.take 6
      let micro := Digits.value (six ++ List.replicate (6 - six.length) '0')
      return (⟨hour, minute, second, micro⟩, more.dropWhile Char.isDigit)
  | _ => return (⟨hour, minute, second, 0⟩, rest)

/-- The distance to universal time in minutes, if it is given. -/
def timeOffset (cs : List Char) : Option Int × List Char :=
  let numbers (rest : List Char) : Option (Nat × List Char) := do
    let (hour, rest) ← fixedNumber 2 0 23 rest
    let (minute, rest) ← fixedNumber 2 0 59 (← after ':' rest)
    return (hour * 60 + minute, rest)
  match cs with
  | 'Z' :: rest | 'z' :: rest => (some 0, rest)
  | '+' :: rest => match numbers rest with
    | some (n, rest) => (some n, rest)
    | none => (none, cs)
  | '-' :: rest => match numbers rest with
    | some (n, rest) => (some (-n), rest)
    | none => (none, cs)
  | _ => (none, cs)

/-- A time after a date, from the mark between them. -/
def timeAfterDate : List Char → Option ((TimeOfDay × Option Int) × List Char)
  | c :: rest =>
    if c = 'T' ∨ c = 't' ∨ c = ' ' then do
      let (time, rest) ← timeOfDay rest
      let (offset, rest) := timeOffset rest
      return ((time, offset), rest)
    else none
  | [] => none

/-- Whether characters have the form of a date, and the numbers of it. -/
def dateNumbers (cs : List Char) : Option ((Nat × Nat × Nat) × List Char) := do
  let (year, rest) ← fixedNumber 4 0 9999 cs
  let (month, rest) ← fixedNumber 2 1 12 (← after '-' rest)
  let (day, rest) ← fixedNumber 2 1 31 (← after '-' rest)
  return ((year, month, day), rest)

/-- A date or a moment from its numbers; `none` if there is no such date. -/
def dateOrMoment (year month day : Nat) (rest : List Char) : Option (Value × List Char) := do
  let date ← (Date.ofNumbers year month day).toOption
  match timeAfterDate rest with
  | some ((time, offset), rest) => return (.moment ⟨date, time, offset⟩, rest)
  | none => return (.date date, rest)

/-- A date, a time, or a number. -/
def scalar (cs : List Char) : Except Fault (Value × List Char) :=
  match dateNumbers cs with
  | some ((year, month, day), rest) => expect (dateOrMoment year month day rest)
  | none =>
    match timeOfDay cs, markedNumber cs, specialNumber cs with
    | some (time, rest), _, _ => .ok (.time time, rest)
    | none, some marked, _ => .ok marked
    | none, none, some special => .ok special
    | none, none, none => decimalNumber cs

end Scenario.Toml
