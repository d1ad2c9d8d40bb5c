import Scenario.Yaml.Implicit

/-! # From tokens to nodes

Nodes may be given a name by an anchor and stand again where an alias has the name, also inside
themselves. A name may be given once only. -/

namespace Scenario.Yaml

/-- What is known while nodes are read: the handles of tags, the places of the nodes with names, and
the nodes. A collection has its place before its parts. -/
structure NodeContext where
  handles : List (String × String)
  anchors : List (String × NodeId) := []
  nodes : NodeTable := #[]

/-- What reading a part of a document gives: the part, what is known by then, and the tokens after
it. -/
abbrev NodeRead (α : Type) := α × NodeContext × List Token

/-- The handles that are always there. -/
def defaultHandles : List (String × String) := [("!", "!"), ("!!", tagPrefix)]

/-- The text breaks the rules of the format. -/
def notANode {α : Type} : Except Error α := .error .malformed

/-- The tokens do not go on as they should. -/
def refused {α : Type} (tokens : List Token) : Except Error α := .error (Token.refusal tokens)

/-- The properties in front of a node: an anchor and a tag, in either order. -/
def nodeProperties : List Token → Option String × Option TagSource × List Token
  | .anchor name :: .tag t :: rest => (some name, some t, rest)
  | .tag t :: .anchor name :: rest => (some name, some t, rest)
  | .anchor name :: rest => (some name, none, rest)
  | .tag t :: rest => (none, some t, rest)
  | tokens => (none, none, tokens)

/-- The full name of a tag; `none` for a node without a tag of its own. -/
def NodeContext.tagName? (ctx : NodeContext) : Option TagSource → Except Error (Option String)
  | none => .ok none
  | some t =>
    match t.handle with
    | none => .ok (if t.suffix = "!" then none else some t.suffix)
    | some h =>
      match ctx.handles.lookup h with
      | some start => .ok (if start ++ t.suffix = "!" then none else some (start ++ t.suffix))
      | none => notANode

/-- The tag of a collection. -/
def collectionTag (name : Option String) (default : Tag) : Tag :=
  (name.map Tag.ofName).getD default

/-- The tag of a scalar. Only plain scalars, and those marked as such by the tag of an exclamation
mark, have the kind of value of their form. -/
def scalarTag (name : Option String) (plain : Bool) (text : String) : Tag :=
  match name with
  | some n => Tag.ofName n
  | none => if plain then implicitTag text else .text

/-- An empty plain scalar. -/
def emptyNode : Node := .scalar .null ""

/-- Gives a node the next place, and the name of an anchor. -/
def NodeContext.add (ctx : NodeContext) (anchor : Option String) (n : Node) :
    NodeId × NodeContext :=
  let id := ctx.nodes.size
  (id, { ctx with
    nodes := ctx.nodes.push n
    anchors := (anchor.map fun name => (name, id)).toList ++ ctx.anchors })

/-- The node at a place has been read. -/
def NodeContext.define (ctx : NodeContext) (id : NodeId) (n : Node) : NodeContext :=
  { ctx with nodes := ctx.nodes.setIfInBounds id n }

/-- Whether a node has the name of an anchor already. -/
def NodeContext.hasName (ctx : NodeContext) (anchor : Option String) : Bool :=
  (anchor.bind fun name => ctx.anchors.lookup name).isSome

/-- An empty node in front of tokens. -/
def NodeContext.addEmpty (ctx : NodeContext) (tokens : List Token) :
    Except Error (NodeRead NodeId) :=
  let (id, ctx) := ctx.add none emptyNode
  .ok (id, ctx, tokens)

/-- Whether a token ends an entry of a block mapping. -/
def endsBlockPart : Token → Bool
  | .key | .value | .blockEnd => true
  | _ => false

/-- Where a node stands. -/
inductive NodePlace where
  | flow
  | block
  /-- As a key or a value of a block mapping: a sequence need not be indented. -/
  | blockPart
deriving DecidableEq, Repr

mutual

/-- A node. A tag is looked up when the token after it is known, unless an anchor is in front. -/
def readNode : Nat → NodePlace → NodeContext → List Token →
    Except Error (NodeRead NodeId)
  | 0, _, _, tokens => refused tokens
  | fuel + 1, place, ctx, tokens =>
    match tokens with
    | .alias name :: rest =>
      match ctx.anchors.lookup name with
      | some id => .ok (id, ctx, rest)
      | none => notANode
    | .tag _ :: .broken fault :: _ => .error (.scalar fault)
    | _ => do
      let (anchor, tag, rest) := nodeProperties tokens
      let name ← ctx.tagName? tag
      if let .broken _ :: _ := rest then refused rest
      else if ctx.hasName anchor then notANode
      else readContent fuel place anchor tag.isSome name ctx rest

/-- A node after its properties. -/
def readContent : Nat → NodePlace → Option String → Bool → Option String → NodeContext →
    List Token → Except Error (NodeRead NodeId)
  | 0, _, _, _, _, _, tokens => refused tokens
  | fuel + 1, place, anchor, hasTag, name, ctx, tokens =>
    match tokens with
    | .scalar text plain :: rest =>
      let (id, ctx) := ctx.add anchor (.scalar (scalarTag name (plain || hasTag) text) text)
      .ok (id, ctx, rest)
    | .flowSequenceStart :: rest => do
      let tag := collectionTag name .sequence
      let (id, ctx) := ctx.add anchor (.sequence tag [])
      let (items, ctx, rest) ← readFlowItems fuel true ctx rest
      return (id, ctx.define id (.sequence tag items), rest)
    | .flowMappingStart :: rest => do
      let tag := collectionTag name .mapping
      let (id, ctx) := ctx.add anchor (.mapping tag [])
      let (entries, ctx, rest) ← readFlowEntries fuel true ctx rest
      return (id, ctx.define id (.mapping tag entries), rest)
    | .blockEntry :: _ =>
      if place = .blockPart then do
        let tag := collectionTag name .sequence
        let (id, ctx) := ctx.add anchor (.sequence tag [])
        let (items, ctx, rest) ← readIndentlessItems fuel ctx tokens
        return (id, ctx.define id (.sequence tag items), rest)
      else readEmpty anchor hasTag name ctx tokens
    | .blockSequenceStart :: rest =>
      if place ≠ .flow then do
        let tag := collectionTag name .sequence
        let (id, ctx) := ctx.add anchor (.sequence tag [])
        let (items, ctx, rest) ← readBlockItems fuel ctx rest
        return (id, ctx.define id (.sequence tag items), rest)
      else readEmpty anchor hasTag name ctx tokens
    | .blockMappingStart :: rest =>
      if place ≠ .flow then do
        let tag := collectionTag name .mapping
        let (id, ctx) := ctx.add anchor (.mapping tag [])
        let (entries, ctx, rest) ← readBlockEntries fuel ctx rest
        return (id, ctx.define id (.mapping tag entries), rest)
      else readEmpty anchor hasTag name ctx tokens
    | _ => readEmpty anchor hasTag name ctx tokens

/-- An empty scalar, which needs a property. -/
def readEmpty (anchor : Option String) (hasTag : Bool) (name : Option String) (ctx : NodeContext)
    (tokens : List Token) : Except Error (NodeRead NodeId) :=
  if anchor.isSome || hasTag then
    let (id, ctx) := ctx.add anchor (.scalar (scalarTag name true "") "")
    .ok (id, ctx, tokens)
  else refused tokens

/-- The entries of a block sequence up to its end. -/
def readBlockItems : Nat → NodeContext → List Token →
    Except Error (NodeRead (List NodeId))
  | 0, _, tokens => refused tokens
  | fuel + 1, ctx, tokens =>
    match tokens with
    | .blockEnd :: rest => .ok ([], ctx, rest)
    | .blockEntry :: rest => do
      let (item, ctx, rest) ← match rest with
        | .blockEntry :: _ | .blockEnd :: _ => ctx.addEmpty rest
        | _ => readNode fuel .block ctx rest
      let (items, ctx, rest) ← readBlockItems fuel ctx rest
      return (item :: items, ctx, rest)
    | _ => refused tokens

/-- The entries of a sequence that is not indented. -/
def readIndentlessItems : Nat → NodeContext → List Token →
    Except Error (NodeRead (List NodeId))
  | 0, _, tokens => refused tokens
  | fuel + 1, ctx, tokens =>
    match tokens with
    | .blockEntry :: rest => do
      let (item, ctx, rest) ← match rest with
        | .blockEntry :: _ | .key :: _ | .value :: _ | .blockEnd :: _ => ctx.addEmpty rest
        | _ => readNode fuel .block ctx rest
      let (items, ctx, rest) ← readIndentlessItems fuel ctx rest
      return (item :: items, ctx, rest)
    | _ => .ok ([], ctx, tokens)

/-- The entries of a block mapping up to its end; a key or a value may be left out. -/
def readBlockEntries : Nat → NodeContext → List Token →
    Except Error (NodeRead (List (NodeId × NodeId)))
  | 0, _, tokens => refused tokens
  | fuel + 1, ctx, tokens =>
    match tokens with
    | .blockEnd :: rest => .ok ([], ctx, rest)
    | .key :: rest => do
      let (key, ctx, rest) ← readBlockPart fuel ctx rest
      let (value, ctx, rest) ← match rest with
        | .value :: rest => readBlockPart fuel ctx rest
        | _ => ctx.addEmpty rest
      let (entries, ctx, rest) ← readBlockEntries fuel ctx rest
      return ((key, value) :: entries, ctx, rest)
    | _ => refused tokens

/-- A key or a value of a block mapping, or nothing. -/
def readBlockPart : Nat → NodeContext → List Token →
    Except Error (NodeRead NodeId)
  | 0, _, tokens => refused tokens
  | fuel + 1, ctx, tokens =>
    if (tokens.head?.map endsBlockPart).getD false then ctx.addEmpty tokens
    else readNode fuel .blockPart ctx tokens

/-- The entries of a flow sequence up to its end. A marked key alone is a mapping of one entry. -/
def readFlowItems : Nat → Bool → NodeContext → List Token →
    Except Error (NodeRead (List NodeId))
  | 0, _, _, tokens => refused tokens
  | fuel + 1, first, ctx, tokens =>
    match tokens with
    | .flowSequenceEnd :: rest => .ok ([], ctx, rest)
    | _ => do
      let rest ← match first, tokens with
        | true, _ => pure tokens
        | false, .flowEntry :: rest => pure rest
        | false, _ => refused tokens
      match rest with
      | .flowSequenceEnd :: rest => return ([], ctx, rest)
      | .key :: rest =>
        let (id, ctx) := ctx.add none (.mapping .mapping [])
        let (key, ctx, rest) ← match rest with
          | .value :: _ | .flowEntry :: _ | .flowSequenceEnd :: _ => ctx.addEmpty rest
          | _ => readNode fuel .flow ctx rest
        let (value, ctx, rest) ← match rest with
          | .value :: .flowEntry :: _ | .value :: .flowSequenceEnd :: _ =>
            ctx.addEmpty (rest.drop 1)
          | .value :: rest => readNode fuel .flow ctx rest
          | _ => ctx.addEmpty rest
        let ctx := ctx.define id (.mapping .mapping [(key, value)])
        let (items, ctx, rest) ← readFlowItems fuel false ctx rest
        return (id :: items, ctx, rest)
      | _ =>
        let (item, ctx, rest) ← readNode fuel .flow ctx rest
        let (items, ctx, rest) ← readFlowItems fuel false ctx rest
        return (item :: items, ctx, rest)

/-- The entries of a flow mapping up to its end. A node without a mark is a key without a value. -/
def readFlowEntries : Nat → Bool → NodeContext → List Token →
    Except Error (NodeRead (List (NodeId × NodeId)))
  | 0, _, _, tokens => refused tokens
  | fuel + 1, first, ctx, tokens =>
    match tokens with
    | .flowMappingEnd :: rest => .ok ([], ctx, rest)
    | _ => do
      let rest ← match first, tokens with
        | true, _ => pure tokens
        | false, .flowEntry :: rest => pure rest
        | false, _ => refused tokens
      match rest with
      | .flowMappingEnd :: rest => return ([], ctx, rest)
      | .key :: rest =>
        let (key, ctx, rest) ← match rest with
          | .value :: _ | .flowEntry :: _ | .flowMappingEnd :: _ => ctx.addEmpty rest
          | _ => readNode fuel .flow ctx rest
        let (value, ctx, rest) ← match rest with
          | .value :: .flowEntry :: _ | .value :: .flowMappingEnd :: _ =>
            ctx.addEmpty (rest.drop 1)
          | .value :: rest => readNode fuel .flow ctx rest
          | _ => ctx.addEmpty rest
        let (entries, ctx, rest) ← readFlowEntries fuel false ctx rest
        return ((key, value) :: entries, ctx, rest)
      | _ =>
        let (key, ctx, rest) ← readNode fuel .flow ctx rest
        let (value, ctx, rest) ← ctx.addEmpty rest
        let (entries, ctx, rest) ← readFlowEntries fuel false ctx rest
        return ((key, value) :: entries, ctx, rest)

end

/-- The handles that the directives in front of a document declare, and the tokens after them. -/
def readDirectives (versionSeen : Bool) (handles : List (String × String)) :
    List Token → Except Error (List (String × String) × List Token)
  | .directive (.version major _) :: rest =>
    if versionSeen ∨ major ≠ 1 then notANode else readDirectives true handles rest
  | .directive (.tag handle replacement) :: rest =>
    if (handles.lookup handle).isSome then notANode
    else readDirectives versionSeen ((handle, replacement) :: handles) rest
  | .directive .other :: rest => readDirectives versionSeen handles rest
  | tokens => .ok (handles ++ defaultHandles, tokens)

/-- Whether a token cannot be in a document. -/
def endsDocument : Token → Bool
  | .directive _ | .documentStart | .documentEnd | .streamEnd => true
  | _ => false

/-- After a document there are only marks for its end. What else there is counts as the beginning of
another one. -/
def readEnd : List Token → Except Error Unit
  | [.streamEnd] => .ok ()
  | .documentEnd :: rest => readEnd rest
  | tokens => do
    let (_, rest) ← readDirectives false [] tokens
    refused rest

/-- The document with a node at its root, in front of the end of the text. -/
def NodeContext.toDocument (root : NodeId) (ctx : NodeContext) (rest : List Token) :
    Except Error Document := do
  readEnd rest
  return ⟨ctx.nodes, root⟩

/-- The one document of a text, if there is any: a first document without a mark, or one after
directives and a mark. A document with a mark may be empty. -/
def readDocument (tokens : List Token) : Except Error (Option Document) :=
  let fuel := 4 * tokens.length + 4
  match tokens with
  | [.streamEnd] => .ok none
  | .directive _ :: _ | .documentStart :: _ => do
    let (handles, rest) ← readDirectives false [] tokens
    match rest with
    | .documentStart :: rest =>
      let ctx : NodeContext := { handles }
      let (root, ctx, rest) ←
        if (rest.head?.map endsDocument).getD true then ctx.addEmpty rest
        else readNode fuel .block ctx rest
      some <$> ctx.toDocument root rest
    | _ => refused rest
  | _ => do
    let (root, ctx, rest) ← readNode fuel .block { handles := defaultHandles } tokens
    some <$> ctx.toDocument root rest

end Scenario.Yaml
