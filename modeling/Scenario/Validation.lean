import Scenario.Value.Literal

/-! # Checked reading of values

A value is read as data of a declared shape. Reading goes on after a fault, so that all faults are
found, in the order of the declared fields. -/

namespace Scenario

/-- One step into a value. -/
inductive Step where
  | field (name : String)
  | index (i : Nat)
deriving DecidableEq, Repr

/-- What is wrong with a part of a value. -/
inductive Complaint where
  | missing
  | textType
  | textEncoding
  | listType
  | tupleType
  /-- Not a mapping, where one for the named kind of node is expected. -/
  | nodeType (node : String)
  | intType
  | intParsing
  | intFromFraction
  | intSize
  | finiteNumber
  | boolType
  | boolParsing
  /-- Not one of the named values. -/
  | choice (values : List String)
  /-- Not the one value allowed. -/
  | literal (value : String)
  /-- No tag tells which of the alternatives is meant. -/
  | tagNotFound (key : String)
  /-- The tag is none of the alternatives. -/
  | tagInvalid (key tag : String) (expected : List String)
  /-- Not a mapping, where one of several alternatives is expected. -/
  | attributesType
deriving DecidableEq, Repr

/-- A fault: where it lies and what it is. -/
structure Issue where
  loc : List Step
  complaint : Complaint
deriving DecidableEq, Repr

/-- Values between quotes, the last after "or". -/
def quotedChoices (values : List String) : String :=
  let quotedValues := values.map fun v => "'" ++ v ++ "'"
  match quotedValues.reverse with
  | [] => ""
  | [v] => v
  | v :: rest => ", ".intercalate rest.reverse ++ " or " ++ v

namespace Complaint

/-- The kind of a complaint, as a word. -/
def kind : Complaint → String
  | .missing => "missing"
  | .textType => "string_type"
  | .textEncoding => "string_unicode"
  | .listType => "list_type"
  | .tupleType => "tuple_type"
  | .nodeType _ => "model_type"
  | .intType => "int_type"
  | .intParsing => "int_parsing"
  | .intFromFraction => "int_from_float"
  | .intSize => "int_parsing_size"
  | .finiteNumber => "finite_number"
  | .boolType => "bool_type"
  | .boolParsing => "bool_parsing"
  | .choice _ => "enum"
  | .literal _ => "literal_error"
  | .tagNotFound _ => "union_tag_not_found"
  | .tagInvalid .. => "union_tag_invalid"
  | .attributesType => "model_attributes_type"

/-- The sentence for a complaint. -/
def message : Complaint → String
  | .missing => "Field required"
  | .textType => "Input should be a valid string"
  | .textEncoding => "Input should be a valid string, unable to parse raw data as a unicode string"
  | .listType => "Input should be a valid list"
  | .tupleType => "Input should be a valid tuple"
  | .nodeType node => s!"Input should be a valid dictionary or instance of {node}"
  | .intType => "Input should be a valid integer"
  | .intParsing => "Input should be a valid integer, unable to parse string as an integer"
  | .intFromFraction => "Input should be a valid integer, got a number with a fractional part"
  | .intSize => "Unable to parse input string as an integer, exceeded maximum size"
  | .finiteNumber => "Input should be a finite number"
  | .boolType => "Input should be a valid boolean"
  | .boolParsing => "Input should be a valid boolean, unable to interpret input"
  | .choice values => "Input should be " ++ quotedChoices values
  | .literal value => s!"Input should be '{value}'"
  | .tagNotFound key => s!"Unable to extract tag using discriminator '{key}'"
  | .tagInvalid key tag expected =>
    s!"Input tag '{tag}' found using '{key}' does not match any of the expected tags: " ++
      ", ".intercalate (expected.map fun e => "'" ++ e ++ "'")
  | .attributesType => "Input should be a valid dictionary or object to extract fields from"

end Complaint

/-- Data read from a value, or all the faults in it. -/
abbrev Checked (α : Type) := Except (List Issue) α

namespace Checked

/-- One fault at the value itself. -/
def fail {α : Type} (c : Complaint) : Checked α := .error [⟨[], c⟩]

/-- The faults of a part, seen from the whole. -/
def under {α : Type} (step : Step) : Checked α → Checked α
  | .ok a => .ok a
  | .error issues => .error (issues.map fun i => { i with loc := step :: i.loc })

/-- Two readings side by side: the faults of both are kept. -/
def both {α β : Type} : Checked α → Checked β → Checked (α × β)
  | .ok a, .ok b => .ok (a, b)
  | .ok _, .error es => .error es
  | .error es, .ok _ => .error es
  | .error es, .error fs => .error (es ++ fs)

/-- Two readings side by side succeed when each of them does. -/
theorem both_eq_ok_iff {α β : Type} {a : Checked α} {b : Checked β} {x : α × β} :
    both a b = .ok x ↔ a = .ok x.1 ∧ b = .ok x.2 := by
  cases a <;> cases b <;> simp [both, Prod.ext_iff]

/-- A function and its argument read side by side. -/
def ap {α β : Type} (f : Checked (α → β)) (a : Checked α) : Checked β :=
  (fun p => p.1 p.2) <$> both f a

end Checked

/-- A way to read values as data. -/
abbrev Decoder (α : Type) := Value → Checked α

namespace Decoder

/-- Any value, as it is. -/
def any : Decoder Value := .ok

/-- Null or something else. -/
def optional {α : Type} (d : Decoder α) : Decoder (Option α)
  | .null => .ok none
  | v => some <$> d v

/-- The items of a list from a position on. -/
def items {α : Type} (d : Decoder α) (i : Nat) : List Value → Checked (List α)
  | [] => .ok []
  | v :: rest =>
    (fun p => p.1 :: p.2) <$> Checked.both ((d v).under (.index i)) (items d (i + 1) rest)

/-- A list; a tuple and a set count as one. -/
def list {α : Type} (d : Decoder α) (v : Value) : Checked (List α) :=
  match v.exposed with
  | .list vs | .tuple vs | .set vs => items d 0 vs
  | _ => Checked.fail .listType

/-- A list that does not change. -/
def tuple {α : Type} (d : Decoder α) (v : Value) : Checked (List α) :=
  match v.exposed with
  | .list vs | .tuple vs | .set vs => items d 0 vs
  | _ => Checked.fail .tupleType

/-- A mapping that stands for a node. -/
def node {α : Type} (name : String) (read : List (Value × Value) → Checked α) (v : Value) :
    Checked α :=
  match v.exposed with
  | .map entries => read entries
  | _ => Checked.fail (.nodeType name)

end Decoder

namespace Checked

/-- A field that has to be there. -/
def required {α : Type} (entries : List (Value × Value)) (name : String) (d : Decoder α) :
    Checked α :=
  (match Value.field? name entries with
    | some v => d v
    | none => fail .missing).under (.field name)

/-- A field with a value for when it is not there. -/
def withDefault {α : Type} (entries : List (Value × Value)) (name : String) (d : Decoder α)
    (default : α) : Checked α :=
  match Value.field? name entries with
  | some v => (d v).under (.field name)
  | none => .ok default

end Checked

end Scenario
