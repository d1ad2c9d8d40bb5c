import Scenario.Yaml.Datum
import Scenario.Yaml.Node.Reader
import Scenario.Yaml.TokenStream

/-! # The value of a YAML document

Data whose parts have values have values. What then has none contains itself: it has the place of
its node as its label. -/

namespace Scenario.Yaml

/-- The values of data that are known, by the places of their nodes. -/
abbrev KnownValues := Array (Option Value)

/-- The value of a node, if it is known. -/
def KnownValues.at? (known : KnownValues) (id : NodeId) : Option Value := (known[id]?).join

/-- The value of a datum, given those of its parts. -/
def Datum.valueWith {m : Type → Type} [Monad m] (part : NodeId → m Value) : Datum → m Value
  | .scalar v => return v
  | .nanWord => return .float .nan
  | .list items => .list <$> items.mapM part
  | .set items => .set <$> items.mapM part
  | .tuples pairs => .list <$> pairs.mapM fun p => return .tuple [← part p.1, ← part p.2]
  | .map entries => .map <$> entries.mapM fun e => return (← part e.1, ← part e.2)

/-- The known values with that of one more node, if its parts have values. -/
def Construction.learn (s : Construction) (known : KnownValues) (id : NodeId) : KnownValues :=
  match known.at? id, s.datum? id with
  | none, some d => known.setIfInBounds id (d.valueWith known.at?)
  | _, _ => known

/-- How many values are known. -/
def KnownValues.count (known : KnownValues) : Nat :=
  known.foldl (fun n v => if v.isSome then n + 1 else n) 0

/-- The values of all data that do not contain themselves. Parts mostly have later places, so the
last nodes come first. -/
def Construction.values (s : Construction) : Nat → KnownValues → KnownValues
  | 0, known => known
  | fuel + 1, known =>
    let more := (List.range s.nodes.size).reverse.foldl s.learn known
    if more.count = known.count then known else s.values fuel more

/-- The value of a node inside others. A collection without a known value has a label, which stands
for it inside. -/
def Construction.labelled (s : Construction) (known : KnownValues) :
    Nat → List NodeId → NodeId → Value
  | 0, _, id => .again id
  | fuel + 1, above, id =>
    match known.at? id, s.datum? id with
    | some v, _ => v
    | none, none => .again id
    | none, some d =>
      if above.contains id then .again id
      else .cyclic id (Id.run (d.valueWith fun part => s.labelled known fuel (id :: above) part))

/-- The value of a document. -/
def Document.value (d : Document) : Except Error Value := do
  let s ← d.construct
  let size := s.nodes.size
  return s.labelled (s.values (size + 1) (Array.replicate size none)) (size + 1) [] d.root

/-- The value of the one document of a text; a text without a document is null. -/
def load (text : List Char) : Except Error Value := do
  match ← readDocument (← tokenize text) with
  | none => return .null
  | some d => d.value

end Scenario.Yaml
