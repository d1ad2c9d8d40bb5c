import Scenario.Specification
import Scenario.Json

/-! # Outlines

A specification in short: statements are counted and not shown. An outline is written as a JSON
document. -/

namespace Scenario

/-- A block in short. -/
structure BlockOutline where
  label : String
  descriptions : List String
  /-- The number of statements that are no descriptions. -/
  statements : Nat
deriving DecidableEq, Repr

/-- A method in short. -/
structure MethodOutline where
  name : String
  category : String
  blocks : List BlockOutline
  /-- The place of a feature. -/
  ordinal : Option Int := none
  /-- The role of a fixture. -/
  role : Option Role := none
deriving DecidableEq, Repr

/-- A data field in short. -/
structure FieldOutline where
  name : String
  ordinal : Int
  shared : Bool
deriving DecidableEq, Repr

/-- A specification in short. -/
structure Outline where
  name : String
  sourceFile : Option String
  fields : List FieldOutline
  /-- The declared fixtures in the order in which they run. -/
  fixtures : List MethodOutline
  /-- The features and helpers in the order of their declarations. -/
  methods : List MethodOutline
deriving DecidableEq, Repr

/-! ## The outline of a specification -/

/-- The label of a block, its descriptions, and how many statements it has. -/
def Block.outline (b : Block) : BlockOutline := ⟨b.label, b.descriptions, b.statements.length⟩

/-- A method in short. -/
def AnyMethod.outline (m : AnyMethod) : MethodOutline :=
  { name := m.method.name
    category := m.category
    blocks := m.method.blocks.map Block.outline
    ordinal := m.ordinal?
    role := m.role? }

/-- A field in short. -/
def FieldSpec.outline (f : FieldSpec) : FieldOutline := ⟨f.name, f.ordinal, f.shared⟩

/-- A specification in short. -/
def Specification.outline (s : Specification) : Outline :=
  { name := s.name
    sourceFile := s.sourceFile
    fields := s.fields.map FieldSpec.outline
    fixtures := s.fixtureMethods.map fun f => (AnyMethod.fixture f).outline
    methods := s.methods.map fun m => (AnyMethod.member m).outline }

/-! ## Outlines as documents -/

/-- A list of texts as a document. -/
def Json.texts (ss : List String) : Json := .list (ss.map .text)

/-- A text that may be absent, as a document. -/
def Json.optionalText : Option String → Json
  | none => .null
  | some s => .text s

/-- A block in short, as a document. -/
def BlockOutline.toJson (b : BlockOutline) : Json :=
  .object [("label", .text b.label), ("descriptions", .texts b.descriptions),
    ("statements", .int b.statements)]

/-- What only some methods have: the place of a feature, the role of a fixture. -/
def MethodOutline.marks (m : MethodOutline) : List (String × Json) :=
  (m.ordinal.map fun n => ("ordinal", Json.int n)).toList ++
    (m.role.map fun role => ("role", Json.text role.name)).toList

/-- A method in short, as a document. -/
def MethodOutline.toJson (m : MethodOutline) : Json :=
  .object ([("name", .text m.name), ("category", .text m.category),
    ("blocks", .list (m.blocks.map BlockOutline.toJson))] ++ m.marks)

/-- A field in short, as a document. -/
def FieldOutline.toJson (f : FieldOutline) : Json :=
  .object [("name", .text f.name), ("ordinal", .int f.ordinal), ("shared", .bool f.shared)]

/-- A specification in short, as a document. -/
def Outline.toJson (o : Outline) : Json :=
  .object [("name", .text o.name), ("source_file", .optionalText o.sourceFile),
    ("fields", .list (o.fields.map FieldOutline.toJson)),
    ("fixtures", .list (o.fixtures.map MethodOutline.toJson)),
    ("methods", .list (o.methods.map MethodOutline.toJson))]

end Scenario
