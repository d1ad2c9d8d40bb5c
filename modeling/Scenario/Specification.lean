import Scenario.Block

/-! # Specifications

The object model of one class: its data fields, its features and helpers in the order of their
declarations, and its fixtures by role. -/

namespace Scenario

/-- When a fixture runs. -/
inductive Role where
  /-- Before every feature. -/
  | setup
  /-- After every feature. -/
  | cleanup
  /-- Once, before all features. -/
  | setupSpec
  /-- Once, after all features. -/
  | cleanupSpec
deriving DecidableEq, Repr

namespace Role

/-- All roles. -/
def all : List Role := [.setup, .cleanup, .setupSpec, .cleanupSpec]

/-- The name of the methods with a role. -/
def name : Role → String
  | .setup => "setup"
  | .cleanup => "cleanup"
  | .setupSpec => "setupSpec"
  | .cleanupSpec => "cleanupSpec"

/-- The role with a given name. -/
def ofName? (s : String) : Option Role := all.find? (·.name == s)

end Role

/-- A data field of a specification. -/
structure FieldSpec where
  name : String
  /-- The place of the field among the data fields. -/
  ordinal : Int
  /-- Whether the field keeps its value between iterations of a feature. -/
  shared : Bool := false
  /-- The declared property that owns the field. -/
  propertyName : Option String := none
  position : Position := {}
deriving DecidableEq, Repr

/-- What all methods of a specification have. -/
structure MethodSpec where
  name : String
  blocks : List Block := []
  position : Position := {}
deriving Repr

/-- A method that runs at certain times. -/
structure Fixture where
  role : Role
  method : MethodSpec
deriving Repr

/-- A method that is no fixture. -/
inductive Member where
  /-- A test; `ordinal` is its place among the features. -/
  | feature (ordinal : Int) (method : MethodSpec)
  | helper (method : MethodSpec)
deriving Repr

namespace Member

/-- The method that a member is. -/
def method : Member → MethodSpec
  | .feature _ m | .helper m => m

/-- Whether a member is a feature. -/
def isFeature : Member → Bool
  | .feature .. => true
  | .helper _ => false

/-- The place among the features, of a feature. -/
def ordinal? : Member → Option Int
  | .feature n _ => some n
  | .helper _ => none

end Member

/-- The fixtures of a specification, one for a role at most. -/
structure Fixtures where
  setup : Option Fixture := none
  cleanup : Option Fixture := none
  setupSpec : Option Fixture := none
  cleanupSpec : Option Fixture := none
deriving Repr

namespace Fixtures

/-- The fixture with a role. -/
def get? (fs : Fixtures) : Role → Option Fixture
  | .setup => fs.setup
  | .cleanup => fs.cleanup
  | .setupSpec => fs.setupSpec
  | .cleanupSpec => fs.cleanupSpec

/-- The fixtures with one put in the place of a role. -/
def put (fs : Fixtures) (role : Role) (f : Fixture) : Fixtures :=
  match role with
  | .setup => { fs with setup := some f }
  | .cleanup => { fs with cleanup := some f }
  | .setupSpec => { fs with setupSpec := some f }
  | .cleanupSpec => { fs with cleanupSpec := some f }

/-- The declared fixtures in the order in which they run. -/
def inOrder (fs : Fixtures) : List Fixture :=
  [fs.setupSpec, fs.setup, fs.cleanup, fs.cleanupSpec].filterMap id

theorem get?_put_self (fs : Fixtures) (role : Role) (f : Fixture) :
    (fs.put role f).get? role = some f := by
  cases role <;> rfl

theorem get?_put_of_ne (fs : Fixtures) {role other : Role} (h : other ≠ role) (f : Fixture) :
    (fs.put role f).get? other = fs.get? other := by
  cases role <;> cases other <;> first | rfl | exact absurd rfl h

end Fixtures

/-- The object model of one class. -/
structure Specification where
  name : String
  sourceFile : Option String := none
  position : Position := {}
  fields : List FieldSpec := []
  methods : List Member := []
  fixtures : Fixtures := {}
deriving Repr

/-- A method of a specification of any kind. -/
inductive AnyMethod where
  | member (m : Member)
  | fixture (f : Fixture)
deriving Repr

namespace AnyMethod

/-- What all methods have. -/
def method : AnyMethod → MethodSpec
  | .member m => m.method
  | .fixture f => f.method

/-- The kind of a method, as a word. -/
def category : AnyMethod → String
  | .member (.feature ..) => "feature"
  | .member (.helper _) => "helper"
  | .fixture _ => "fixture"

/-- The place among the features, of a feature. -/
def ordinal? : AnyMethod → Option Int
  | .member m => m.ordinal?
  | .fixture _ => none

/-- The role, of a fixture. -/
def role? : AnyMethod → Option Role
  | .member _ => none
  | .fixture f => some f.role

end AnyMethod

namespace MethodSpec

/-- The blocks of one kind, in order. -/
def blocksOf (m : MethodSpec) (kind : BlockKind) : List Block := m.blocks.filter (·.kind == kind)

/-- The kinds of the blocks, in order. -/
def blockKinds (m : MethodSpec) : List BlockKind := m.blocks.map (·.kind)

/-- Whether a block holds a table of data. -/
def hasDataTable (m : MethodSpec) : Bool := m.blocks.any (·.kind == .dataTable)

end MethodSpec

namespace Specification

/-- The features, in the order of their declarations. -/
def features (s : Specification) : List Member := s.methods.filter (·.isFeature)

/-- The helpers, in the order of their declarations. -/
def helpers (s : Specification) : List Member := s.methods.filter (!·.isFeature)

/-- The fields that keep their values between iterations. -/
def sharedFields (s : Specification) : List FieldSpec := s.fields.filter (·.shared)

/-- The declared fixtures in the order in which they run. -/
def fixtureMethods (s : Specification) : List Fixture := s.fixtures.inOrder

/-- All methods: features and helpers first, then the fixtures. -/
def allMethods (s : Specification) : List AnyMethod :=
  s.methods.map .member ++ s.fixtureMethods.map .fixture

/-- The first method with a name. -/
def method? (s : Specification) (name : String) : Option AnyMethod :=
  s.allMethods.find? (·.method.name == name)

/-- The first field with a name. -/
def field? (s : Specification) (name : String) : Option FieldSpec :=
  s.fields.find? (·.name == name)

/-- A short text for the specification. -/
def summary (s : Specification) : String :=
  s!"Specification({s.name}: {s.features.length} features)"

end Specification

end Scenario
