import Scenario.Value

/-! # JSON documents as values -/

namespace Scenario

/-- A JSON document. Whole numbers and floating-point ones are told apart. -/
inductive Json where
  | null
  | bool (b : Bool)
  | int (n : Int)
  | float (x : Binary64)
  | text (s : String)
  | list (items : List Json)
  | object (entries : List (String × Json))
deriving Repr, Inhabited

namespace Json

/-- The object with each name once, the last value under a name winning. -/
def objectOf (pairs : List (String × Json)) : Json :=
  .object (Entries.ofPairs (· == ·) pairs)

/-- The value under a name of an object. -/
def field? (name : String) : Json → Option Json
  | .object entries => entries.lookup name
  | _ => none

mutual

/-- The value that a document denotes. -/
def toValue : Json → Value
  | .null => .null
  | .bool b => .bool b
  | .int n => .int n
  | .float x => .float x
  | .text s => .text s
  | .list items => .list (itemsToValues items)
  | .object entries => .map (entriesToValues entries)

/-- The values that the items of a list denote. -/
def itemsToValues : List Json → List Value
  | [] => []
  | j :: rest => j.toValue :: itemsToValues rest

/-- The entries that the members of an object denote. -/
def entriesToValues : List (String × Json) → List (Value × Value)
  | [] => []
  | (name, j) :: rest => (.text name, j.toValue) :: entriesToValues rest

end

end Json

end Scenario
