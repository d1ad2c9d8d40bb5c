import Scenario.Specification
import Scenario.Text.Markup

/-! # Listings

A specification as a tree of lines: its fields, its fixtures in the order in which they run, and its
features and helpers in the order of their declarations. The lines carry marks of style. -/

namespace Scenario

open Text.Markup (escape styled)

/-- A line with the lines below it. -/
inductive Listing where
  | node (label : String) (children : List Listing)
deriving Repr

namespace Listing

/-- A line with nothing below it. -/
def leaf (label : String) : Listing := .node label []

/-- The text of a line. -/
def label : Listing → String
  | .node l _ => l

/-- The lines below a line. -/
def children : Listing → List Listing
  | .node _ cs => cs

end Listing

/-- The number of statements of the first block. -/
def MethodSpec.firstBlockSize? (m : MethodSpec) : Option Nat :=
  m.blocks.head?.map (·.statements.length)

/-- A field with its place. -/
def FieldSpec.listing (f : FieldSpec) : Listing :=
  .leaf (s!"{f.ordinal}: {escape f.name}" ++
    if f.shared then " " ++ styled "cyan" "(shared)" else "")

/-- A fixture with the number of its statements. -/
def Fixture.listing? (f : Fixture) : Option Listing :=
  f.method.firstBlockSize?.map fun n =>
    .leaf (styled "magenta" "fixture" ++ s!" {escape f.method.name}() ({n} statements)")

/-- A block with the number of its statements and its descriptions. -/
def Block.listing (b : Block) : Listing :=
  let descriptions := b.descriptions.map fun d => "\"" ++ escape d ++ "\""
  .leaf (s!"{b.label}: {b.statements.length} statements" ++
    if b.descriptions.isEmpty then "" else " - " ++ "; ".intercalate descriptions)

/-- Whether a block has a line of its own: an empty block before the first label has none. -/
def Block.isListed (b : Block) : Bool := !(b.isAnonymous && b.isEmpty)

/-- A feature with a line for every block, or a helper with the number of its statements. -/
def Member.listing? : Member → Option Listing
  | .feature n m =>
    some (.node (styled "green" s!"feature {n}" ++ " " ++ escape m.name)
      ((m.blocks.filter Block.isListed).map Block.listing))
  | .helper m =>
    m.firstBlockSize?.map fun n =>
      .leaf (styled "dim" "helper" ++ s!" {escape m.name}() ({n} statements)")

/-- A specification as a tree of lines; there is none if a fixture or a helper lacks its block. -/
def Specification.listing? (s : Specification) : Option Listing := do
  let fields :=
    if s.fields.isEmpty then [] else [.node "fields" (s.fields.map FieldSpec.listing)]
  let fixtures ← s.fixtureMethods.mapM Fixture.listing?
  let methods ← s.methods.mapM Member.listing?
  return .node (styled "bold" (escape s.name)) (fields ++ fixtures ++ methods)

end Scenario
