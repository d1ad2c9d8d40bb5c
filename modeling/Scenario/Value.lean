import Scenario.Calendar
import Scenario.Entries
import Scenario.Number.Shortest
import Scenario.Text.Quoted

/-! # Values of documents

A document of any of the supported formats denotes a value. Mappings keep the order in which their
keys first appear; whole numbers have no bounds and are told apart from floating-point ones. A
collection may contain itself: it then has a label, by which it is named inside. -/

namespace Scenario

/-- What a document, or a part of one, denotes. -/
inductive Value where
  | null
  | bool (b : Bool)
  | int (n : Int)
  | float (x : Binary64)
  | text (s : String)
  | bytes (bs : List UInt8)
  | date (d : Date)
  | time (t : TimeOfDay)
  | moment (m : Moment)
  | list (items : List Value)
  | tuple (items : List Value)
  | set (items : List Value)
  | map (entries : List (Value × Value))
  /-- A collection that is named by its label inside. -/
  | cyclic (label : Nat) (body : Value)
  /-- The collection around this place that has a label. -/
  | again (label : Nat)
deriving Repr, Inhabited

namespace Value

/-- The integer that a value counts as when it is a key. -/
def asInteger? : Value → Option Int
  | .bool b => some (if b then 1 else 0)
  | .int n => some n
  | .float x => x.toInt?
  | _ => none

/-- Whether two values are the same key. Numbers are the same when they are equal, whatever their
kind, and moments when they are the same instant; collections are no keys. -/
def sameKey (a b : Value) : Bool :=
  match a, b with
  | .null, .null => true
  | .text s, .text t => s == t
  | .bytes s, .bytes t => s == t
  | .date s, .date t => s == t
  | .time s, .time t => s == t
  | .moment s, .moment t => s.sameInstant t
  | .float x, .float y => x.sameNumber y
  | a, b =>
    match a.asInteger?, b.asInteger? with
    | some m, some n => m == n
    | _, _ => false

/-- The entries with a value put under a key: in the key's place if it is there, else at the end. -/
def put (key value : Value) (entries : List (Value × Value)) : List (Value × Value) :=
  Entries.put sameKey key value entries

/-- The value that a mapping holds under a name. -/
def field? (name : String) : List (Value × Value) → Option Value
  | [] => none
  | (.text s, v) :: rest => if s = name then some v else field? name rest
  | _ :: rest => field? name rest

/-! ## Values that contain themselves -/

mutual

/-- The value with a collection in every place that names it by its label. -/
def replaceLabel (label : Nat) (whole : Value) : Value → Value
  | .again n => if n = label then whole else .again n
  | .cyclic n body =>
    if n = label then .cyclic n body else .cyclic n (replaceLabel label whole body)
  | .list items => .list (replaceInItems label whole items)
  | .tuple items => .tuple (replaceInItems label whole items)
  | .set items => .set (replaceInItems label whole items)
  | .map entries => .map (replaceInEntries label whole entries)
  | v => v

/-- Several values with a collection in every place that names it by its label. -/
def replaceInItems (label : Nat) (whole : Value) : List Value → List Value
  | [] => []
  | v :: rest => replaceLabel label whole v :: replaceInItems label whole rest

/-- Entries with a collection in every place that names it by its label. -/
def replaceInEntries (label : Nat) (whole : Value) : List (Value × Value) → List (Value × Value)
  | [] => []
  | (k, v) :: rest =>
    (replaceLabel label whole k, replaceLabel label whole v) :: replaceInEntries label whole rest

end

/-- The value as a collection of whole values: where a collection contains itself, it stands for its
label. -/
def exposed : Value → Value
  | .cyclic label body => replaceLabel label (.cyclic label body) body
  | v => v

@[simp] theorem exposed_list (vs : List Value) : exposed (.list vs) = .list vs := rfl
@[simp] theorem exposed_map (es : List (Value × Value)) : exposed (.map es) = .map es := rfl

end Value

end Scenario
