import Scenario.Yaml.Token

/-! # Nodes of a YAML document

A node is a scalar, a sequence or a mapping with its tag. A node that stands in several places, also
inside itself, is one node. -/

namespace Scenario.Yaml

/-- The kind of value that a node denotes. -/
inductive Tag where
  | null
  | bool
  | int
  | float
  | binary
  | timestamp
  | text
  | sequence
  | mapping
  | set
  | orderedMap
  | pairs
  /-- The key under which other mappings are merged. -/
  | merge
  /-- The key of the default value of a mapping. -/
  | value
  | unknown
deriving DecidableEq, Repr

/-- What the tags that are known begin with. -/
def tagPrefix : String := "tag:yaml.org,2002:"

/-- The tags that are known, by their names. -/
def knownTags : List (String × Tag) :=
  [("null", .null), ("bool", .bool), ("int", .int), ("float", .float), ("binary", .binary),
   ("timestamp", .timestamp), ("str", .text), ("seq", .sequence), ("map", .mapping),
   ("set", .set), ("omap", .orderedMap), ("pairs", .pairs), ("merge", .merge), ("value", .value)]

/-- The tag with a given full name. -/
def Tag.ofName (name : String) : Tag :=
  ((knownTags.find? fun t => tagPrefix ++ t.1 == name).map (·.2)).getD .unknown

/-- The place of a node in its document. -/
abbrev NodeId := Nat

/-- A node. The nodes that it contains are told by their places. -/
inductive Node where
  | scalar (tag : Tag) (text : String)
  | sequence (tag : Tag) (items : List NodeId)
  | mapping (tag : Tag) (entries : List (NodeId × NodeId))
deriving DecidableEq, Repr

/-- The tag of a node. -/
def Node.tag : Node → Tag
  | .scalar t _ | .sequence t _ | .mapping t _ => t

/-- The node with another tag. -/
def Node.withTag (tag : Tag) : Node → Node
  | .scalar _ text => .scalar tag text
  | .sequence _ items => .sequence tag items
  | .mapping _ entries => .mapping tag entries

/-- The nodes of a document by their places. -/
abbrev NodeTable := Array Node

/-- The tag of the node at a place. -/
def NodeTable.tagAt? (nodes : NodeTable) (id : NodeId) : Option Tag := nodes[id]?.map Node.tag

/-- A document: its nodes, and the place of the one that contains the others. -/
structure Document where
  nodes : NodeTable
  root : NodeId
deriving Repr

end Scenario.Yaml
