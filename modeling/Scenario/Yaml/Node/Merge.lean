import Scenario.Yaml.Error
import Scenario.Yaml.Node

/-! # Mappings merged into others

Under a key for merging stands a mapping, or a sequence of mappings, whose entries belong to the
mapping around them. They are put in front of its own, so that its own count; of several mappings
the first one counts, so it is put last. A mapping may be merged into itself. -/

namespace Scenario.Yaml

/-- The first value under a key for merging, and the entries without it. -/
def takeMerge? (nodes : NodeTable) : List (NodeId × NodeId) →
    Option (NodeId × List (NodeId × NodeId))
  | [] => none
  | (k, v) :: rest =>
    if nodes.tagAt? k = some .merge then some (v, rest)
    else (takeMerge? nodes rest).map fun (source, others) => (source, (k, v) :: others)

/-- The nodes with a key for the default value made a text. -/
def retagDefault (nodes : NodeTable) (k : NodeId) : NodeTable :=
  match nodes[k]? with
  | some n => if n.tag = .value then nodes.setIfInBounds k (n.withTag .text) else nodes
  | none => nodes

/-- The entries of several mappings, which are flattened first, in front of those found so far. -/
def mergeMappings (flattened : NodeId → NodeTable → Except Error NodeTable)
    (found : List (NodeId × NodeId)) :
    List NodeId → NodeTable → Except Error (List (NodeId × NodeId) × NodeTable)
  | [], nodes => .ok (found, nodes)
  | source :: rest, nodes => do
    let nodes ← flattened source nodes
    match nodes[source]? with
    | some (.mapping _ entries) => mergeMappings flattened (entries ++ found) rest nodes
    | _ => .error .malformed

/-- The places of the mappings that a value under a key for merging gives. -/
def mergeSources (nodes : NodeTable) (source : NodeId) : Except Error (List NodeId) :=
  match nodes[source]? with
  | some (.mapping ..) => .ok [source]
  | some (.sequence _ items) => .ok items
  | _ => .error .malformed

/-- The nodes with the mapping at a place flattened: other mappings are merged into it, also into
those, and keys for default values are texts. `merged` holds the entries found so far. A step takes
away a key for merging. -/
def flattenOnto : Nat → List (NodeId × NodeId) → NodeId → NodeTable → Except Error NodeTable
  | 0, _, _, _ => .error .malformed
  | fuel + 1, merged, id, nodes =>
    match nodes[id]? with
    | some (.mapping tag entries) =>
      match takeMerge? nodes entries with
      | none =>
        let entries := merged ++ entries
        .ok ((entries.map (·.1)).foldl retagDefault
          (nodes.setIfInBounds id (.mapping tag entries)))
      | some (source, others) => do
        let nodes := nodes.setIfInBounds id (.mapping tag others)
        let sources ← mergeSources nodes source
        let (found, nodes) ← mergeMappings (flattenOnto fuel []) [] sources nodes
        flattenOnto fuel (merged ++ found) id nodes
    | _ => .error .malformed

/-- The number of entries of a node. -/
def Node.entryCount : Node → Nat
  | .mapping _ entries => entries.length
  | _ => 0

/-- The number of entries of all mappings, which bounds that of keys for merging. -/
def NodeTable.entryCount (nodes : NodeTable) : Nat :=
  nodes.foldl (fun n node => n + node.entryCount) 0

/-- The nodes with the mapping at a place flattened. -/
def flatten (id : NodeId) (nodes : NodeTable) : Except Error NodeTable :=
  flattenOnto (nodes.entryCount + 1) [] id nodes

end Scenario.Yaml
