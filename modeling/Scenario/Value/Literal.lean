import Scenario.Value

/-! # The text of a value in a message -/

namespace Scenario.Value

/-- What stands for a collection inside itself. -/
def ellipsis : Value → String
  | .map _ => "\x7b...\x7d"
  | .set _ => "set(...)"
  | .tuple _ => "(...)"
  | _ => "[...]"

mutual

/-- The text of a value inside collections with labels, for which their ellipses stand. -/
def literalInside (inside : List (Nat × String)) : Value → String
  | .null => "None"
  | .bool b => if b then "True" else "False"
  | .int n => toString n
  | .float x => x.text
  | .text s => Text.quoted s
  | .bytes bs => Text.quotedBytes bs
  | .date d => d.literal
  | .time t => t.literal
  | .moment m => m.literal
  | .list items => "[" ++ ", ".intercalate (literals inside items) ++ "]"
  | .tuple items =>
    "(" ++ ", ".intercalate (literals inside items) ++ (if items.length = 1 then ",)" else ")")
  | .set items =>
    if items.isEmpty then "set()"
    else "\x7b" ++ ", ".intercalate (literals inside items) ++ "\x7d"
  | .map entries => "\x7b" ++ ", ".intercalate (entryLiterals inside entries) ++ "\x7d"
  | .cyclic label body =>
    (inside.lookup label).getD (literalInside ((label, ellipsis body) :: inside) body)
  | .again label => (inside.lookup label).getD "..."

/-- The texts of several values. -/
def literals (inside : List (Nat × String)) : List Value → List String
  | [] => []
  | v :: rest => literalInside inside v :: literals inside rest

/-- The texts of the entries of a mapping. -/
def entryLiterals (inside : List (Nat × String)) : List (Value × Value) → List String
  | [] => []
  | (k, v) :: rest =>
    (literalInside inside k ++ ": " ++ literalInside inside v) :: entryLiterals inside rest

end

/-- The text of a value as it would be written out: texts are quoted. -/
def literal (v : Value) : String := literalInside [] v

/-- The text of a value inside a sentence: texts, dates and times stand unquoted. -/
def plain : Value → String
  | .text s => s
  | .date d => d.text
  | .time t => t.text
  | .moment m => m.text " "
  | v => v.literal

/-- The kind of a value, as a word. -/
def kindName : Value → String
  | .null => "NoneType"
  | .bool _ => "bool"
  | .int _ => "int"
  | .float _ => "float"
  | .text _ => "str"
  | .bytes _ => "bytes"
  | .date _ => "datetime.date"
  | .time _ => "datetime.time"
  | .moment _ => "datetime.datetime"
  | .list _ => "list"
  | .tuple _ => "tuple"
  | .set _ => "set"
  | .map _ => "dict"
  | .cyclic _ body => body.kindName
  | .again _ => "ellipsis"

mutual

/-- Whether a whole number in a value has more digits than are written. -/
def hasLong : Value → Bool
  | .int n => Digits.isLong n
  | .list items | .tuple items | .set items => anyLong items
  | .map entries => anyLongEntry entries
  | .cyclic _ body => hasLong body
  | _ => false

/-- Whether a whole number in one of several values has more digits than are written. -/
def anyLong : List Value → Bool
  | [] => false
  | v :: rest => hasLong v || anyLong rest

/-- Whether a whole number in one of several entries has more digits than are written. -/
def anyLongEntry : List (Value × Value) → Bool
  | [] => false
  | (k, v) :: rest => hasLong k || hasLong v || anyLongEntry rest

end

/-- The text of a value as it would be written out, if its whole numbers can be written. -/
def writeLiteral (v : Value) : Except Digits.Fault String :=
  if v.hasLong then .error .write else .ok v.literal

/-- The text of a value inside a sentence, if its whole numbers can be written. -/
def writePlain (v : Value) : Except Digits.Fault String :=
  if v.hasLong then .error .write else .ok v.plain

end Scenario.Value
