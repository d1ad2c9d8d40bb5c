import Scenario.Yaml.Node.Merge
import Scenario.Yaml.Scalar

/-! # What nodes denote

Scalars are valued when they are met. Collections are then only noted; once all that was noted
before them has its parts, they get theirs. So of several faults the one nearest to the root counts,
of those equally near the first, and a node that stands in several places is one datum. -/

namespace Scenario.Yaml

/-- What a node denotes. The parts of a collection are told by the places of their nodes. -/
inductive Datum where
  | scalar (v : Value)
  /-- What is no number, by its word: it is one and the same wherever the word stands. -/
  | nanWord
  | list (items : List NodeId)
  | tuples (pairs : List (NodeId × NodeId))
  | set (items : List NodeId)
  | map (entries : List (NodeId × NodeId))
deriving Repr

/-- Whether a datum is a collection, which is no key. -/
def Datum.isCollection : Datum → Bool
  | .scalar _ | .nanWord => false
  | _ => true

/-- The collection without parts that a tag stands for. -/
def Tag.emptyCollection? : Tag → Option Datum
  | .sequence => some (.list [])
  | .orderedMap | .pairs => some (.tuples [])
  | .set => some (.set [])
  | .mapping => some (.map [])
  | _ => none

/-- What has been made of a document: the datum of every node that has been met, and the places of
the collections that have no parts yet, last first. -/
structure Construction where
  nodes : NodeTable
  data : Array (Option Datum)
  waiting : List NodeId
deriving Repr

/-- The text of a scalar; a mapping stands for what is under its key of the default value. -/
def scalarText (nodes : NodeTable) : Nat → NodeId → Except Error String
  | 0, _ => faulty .endlessDefault
  | fuel + 1, id =>
    match nodes[id]? with
    | some (.scalar _ text) => .ok text
    | some (.mapping _ entries) =>
      match entries.find? fun e => nodes.tagAt? e.1 == some .value with
      | some e => scalarText nodes fuel e.2
      | none => .error .malformed
    | _ => .error .malformed

/-- What a node with the tag of a scalar denotes. -/
def scalarDatum (nodes : NodeTable) (id : NodeId) (n : Node) : Except Error Datum := do
  let text ← scalarText nodes (nodes.size + 1) id
  match n.tag, n with
  | .timestamp, .mapping .. => faulty .mappingAsTimestamp
  | .float, _ =>
    if isNanWord text then return .nanWord else return .scalar (← scalarValue .float text)
  | tag, _ => return .scalar (← scalarValue tag text)

namespace Construction

/-- The datum of a node that has been met. -/
def datum? (s : Construction) (id : NodeId) : Option Datum := (s.data[id]?).join

/-- A node is met: a scalar is valued, and a collection waits for its parts. -/
def meet (s : Construction) (id : NodeId) : Except Error Construction :=
  match s.datum? id, s.nodes[id]? with
  | some _, _ => .ok s
  | none, none => .error .malformed
  | none, some n =>
    match n.tag.emptyCollection? with
    | some d =>
      .ok { s with data := s.data.setIfInBounds id (some d), waiting := id :: s.waiting }
    | none =>
      if [.merge, .value, .unknown].contains n.tag then .error .malformed
      else do
        let d ← scalarDatum s.nodes id n
        return { s with data := s.data.setIfInBounds id (some d) }

/-- The datum of a node is known. -/
def define (s : Construction) (id : NodeId) (d : Datum) : Construction :=
  { s with data := s.data.setIfInBounds id (some d) }

/-- Whether two nodes are the same key. -/
def sameKey (s : Construction) (a b : NodeId) : Bool :=
  a == b || match s.datum? a, s.datum? b with
    | some (.scalar v), some (.scalar w) => v.sameKey w
    | some .nanWord, some .nanWord => true
    | _, _ => false

/-- The key and the value of an entry of a mapping are met. -/
def meetEntry (s : Construction) (entry : NodeId × NodeId) : Except Error Construction := do
  let s ← s.meet entry.1
  if ((s.datum? entry.1).map Datum.isCollection).getD false then .error .malformed
  else s.meet entry.2

/-- The entries of a mapping, each key once, when all of them have been met. -/
def meetEntries (s : Construction) (id : NodeId) :
    Except Error (List (NodeId × NodeId) × Construction) := do
  let nodes ← flatten id s.nodes
  match nodes[id]? with
  | some (.mapping _ entries) => do
    let s ← entries.foldlM meetEntry { s with nodes }
    return (Entries.ofPairs s.sameKey entries, s)
  | _ => .error .malformed

/-- The pairs of a sequence of mappings of one entry each, when all of them have been met. -/
def meetPairs (s : Construction) : List NodeId →
    Except Error (List (NodeId × NodeId) × Construction)
  | [] => .ok ([], s)
  | item :: rest =>
    match s.nodes[item]? with
    | some (.mapping _ [(k, v)]) => do
      let s ← (← s.meet k).meet v
      let (pairs, s) ← s.meetPairs rest
      return ((k, v) :: pairs, s)
    | _ => .error .malformed

/-- A collection gets its parts. -/
def fill (s : Construction) (id : NodeId) : Except Error Construction :=
  match s.datum? id, s.nodes[id]? with
  | some (.list _), some (.sequence _ items) => do
    return (← items.foldlM meet s).define id (.list items)
  | some (.tuples _), some (.sequence _ items) => do
    let (pairs, s) ← s.meetPairs items
    return s.define id (.tuples pairs)
  | some (.set _), some (.mapping ..) => do
    let (entries, s) ← s.meetEntries id
    return s.define id (.set (entries.map (·.1)))
  | some (.map _), some (.mapping ..) => do
    let (entries, s) ← s.meetEntries id
    return s.define id (.map entries)
  | _, _ => .error .malformed

/-- Collections get their parts, those that were met first before the others. -/
def fillAll : Nat → Construction → Except Error Construction
  | 0, s => .ok s
  | fuel + 1, s =>
    if s.waiting.isEmpty then .ok s
    else do
      let s ← s.waiting.reverse.foldlM fill { s with waiting := [] }
      fillAll fuel s

end Construction

/-- The data of all nodes that a document needs. A node waits once at most. -/
def Document.construct (d : Document) : Except Error Construction := do
  let start : Construction := ⟨d.nodes, Array.replicate d.nodes.size none, []⟩
  (← start.meet d.root).fillAll (d.nodes.size + 1)

end Scenario.Yaml
