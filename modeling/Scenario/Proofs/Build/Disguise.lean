import Scenario.Proofs.Build.FirstFailure
import Scenario.Specification.Outline

/-! # What a build does not look at

The expressions of statements and all positions are handed through. A `Disguise` changes both, by
any two functions, and whatever a class is turned into can be disguised like the class. Every step
from a class to its specification goes the same way in disguise:

* `Block.assembleFrom_disguise`: the cutting of a body into blocks, with the place of a fault;
* `BuildState.visitMethod_disguise`, `BuildState.visitField_disguise`: the visit of a member, with
  the state after it, the records and the error;
* `ClassDecl.build_disguise`: the build of a class.

So nothing of a specification or of an error depends on an expression or a position but those that
it holds (`ClassDecl.specification_disguise`). -/

namespace Scenario

/-- A change of what is handed through: of expressions, and of positions. -/
structure Disguise where
  expression : Value → Value
  position : Position → Position

/-! ## Declarations in disguise -/

/-- A statement with another expression at another position. -/
def Statement.disguise (d : Disguise) (s : Statement) : Statement :=
  { s with expression := d.expression s.expression, position := d.position s.position }

/-- A property at another position. -/
def PropertyDecl.disguise (d : Disguise) (p : PropertyDecl) : PropertyDecl :=
  { p with position := d.position p.position }

/-- A field at another position. -/
def FieldDecl.disguise (d : Disguise) (f : FieldDecl) : FieldDecl :=
  { f with position := d.position f.position }

/-- A method with its statements in disguise, at other positions. -/
def MethodDecl.disguise (d : Disguise) (m : MethodDecl) : MethodDecl :=
  { m with
    statements := m.statements.map (·.disguise d)
    position := d.position m.position
    endPosition := m.endPosition.map d.position }

/-- A class with all its members in disguise, at another position. -/
def ClassDecl.disguise (d : Disguise) (c : ClassDecl) : ClassDecl :=
  { c with
    fields := c.fields.map (·.disguise d)
    properties := c.properties.map (·.disguise d)
    methods := c.methods.map (·.disguise d)
    position := d.position c.position }

/-! ## Specifications in disguise -/

/-- A block with its statements in disguise. -/
def Block.disguise (d : Disguise) (b : Block) : Block :=
  { b with statements := b.statements.map (·.disguise d) }

/-- A data field at another position. -/
def FieldSpec.disguise (d : Disguise) (f : FieldSpec) : FieldSpec :=
  { f with position := d.position f.position }

/-- A method with its blocks in disguise, at another position. -/
def MethodSpec.disguise (d : Disguise) (m : MethodSpec) : MethodSpec :=
  { m with blocks := m.blocks.map (·.disguise d), position := d.position m.position }

/-- A fixture in disguise. -/
def Fixture.disguise (d : Disguise) (f : Fixture) : Fixture :=
  { f with method := f.method.disguise d }

/-- A feature or a helper in disguise. -/
def Member.disguise (d : Disguise) : Member → Member
  | .feature ordinal m => .feature ordinal (m.disguise d)
  | .helper m => .helper (m.disguise d)

/-- The fixtures of a specification in disguise. -/
def Fixtures.disguise (d : Disguise) (fs : Fixtures) : Fixtures where
  setup := fs.setup.map (·.disguise d)
  cleanup := fs.cleanup.map (·.disguise d)
  setupSpec := fs.setupSpec.map (·.disguise d)
  cleanupSpec := fs.cleanupSpec.map (·.disguise d)

/-- A specification with all its members in disguise, at another position. -/
def Specification.disguise (d : Disguise) (s : Specification) : Specification :=
  { s with
    position := d.position s.position
    fields := s.fields.map (·.disguise d)
    methods := s.methods.map (·.disguise d)
    fixtures := s.fixtures.disguise d }

/-! ## Errors and records in disguise -/

/-- Another place in the same file, class and method. -/
def Location.disguise (d : Disguise) (l : Location) : Location :=
  { l with line := (d.position l.position).line, column := (d.position l.position).column }

/-- The same refusal at another place. -/
def ParseError.disguise (d : Disguise) (e : ParseError) : ParseError :=
  { e with location := e.location.disguise d }

/-- A record that tells another position, if it tells one. -/
def Event.disguise (d : Disguise) : Event → Event
  | .fixtureReplaced c role position => .fixtureReplaced c role (d.position position)
  | e => e

/-- What has been collected of a class, in disguise. -/
def BuildState.disguise (d : Disguise) (s : BuildState) : BuildState :=
  { s with
    fields := s.fields.map (·.disguise d)
    methods := s.methods.map (·.disguise d)
    fixtures := s.fixtures.disguise d }

/-- What a visit gives, in disguise. -/
def Visit.disguise (d : Disguise) (v : Visit) : Visit where
  state := v.state.disguise d
  events := v.events.map (·.disguise d)
  failure := v.failure.map (·.disguise d)

variable (d : Disguise)

/-! ## What a disguise leaves alone -/

@[simp] theorem Statement.label_disguise (s : Statement) : (s.disguise d).label = s.label := rfl

@[simp] theorem Statement.literal_disguise (s : Statement) :
    (s.disguise d).literal = s.literal := rfl

namespace MethodDecl

@[simp] theorem hasLabels_disguise (m : MethodDecl) : (m.disguise d).hasLabels = m.hasLabels :=
  List.any_map

/-- The body ends where it ended, in disguise. -/
@[simp] theorem lastPosition_disguise (m : MethodDecl) :
    (m.disguise d).lastPosition = d.position m.lastPosition := by
  unfold lastPosition disguise
  dsimp only
  rw [List.getLast?_map]
  cases m.endPosition <;> cases m.statements.getLast? <;> rfl

/-- A disguise does not change what a method is. -/
@[simp] theorem classify_disguise (m : MethodDecl) : (m.disguise d).classify = m.classify := by
  unfold classify
  rw [hasLabels_disguise]
  rfl

end MethodDecl

/-- A disguise does not change which property is found. -/
theorem ClassDecl.property?_disguise (c : ClassDecl) (name : String) :
    (c.disguise d).property? name = (c.property? name).map (·.disguise d) :=
  List.find?_map

/-- A disguise does not change whether a field is data. -/
theorem FieldDecl.dataField?_disguise (f : FieldDecl) (settings : Settings) (owner : ClassDecl) :
    (f.disguise d).dataField? settings (owner.disguise d) = f.dataField? settings owner := by
  have hname : (f.disguise d).name = f.name := rfl
  unfold dataField?
  rw [hname, ClassDecl.property?_disguise]
  cases owner.property? f.name <;> rfl

/-! ## Bodies -/

namespace Block

theorem disguise_cons (s : Statement) (b : Block) :
    (b.cons s).disguise d = (b.disguise d).cons (s.disguise d) := by
  unfold cons
  rw [Statement.literal_disguise]
  cases s.literal <;> rfl

/-- A body in disguise is cut into the same blocks in disguise, or has the same fault at its place
in disguise. -/
theorem assembleFrom_disguise (last : Position) (kind : BlockKind) (statements : List Statement) :
    assembleFrom (d.position last) kind (statements.map (·.disguise d)) =
      ((assembleFrom last kind statements).map fun (b, bs) =>
        (b.disguise d, bs.map (·.disguise d))).mapError
          fun (fault, p) => (fault, d.position p) := by
  induction statements generalizing kind with
  | nil =>
      rw [List.map_nil, assembleFrom, assembleFrom]
      cases kind.allows .methodEnd <;> rfl
  | cons s rest ih =>
      rw [List.map_cons, assembleFrom, assembleFrom, Statement.label_disguise]
      cases s.label with
      | none =>
          dsimp only
          rw [ih]
          cases assembleFrom last kind rest with
          | error e => rfl
          | ok found =>
              exact congrArg (fun b => Except.ok (b, _)) (disguise_cons d s found.1).symm
      | some l =>
          dsimp only
          cases next kind l with
          | error fault => rfl
          | ok opened =>
              dsimp only
              rw [ih]
              cases assembleFrom last opened rest with
              | error e => rfl
              | ok found =>
                  exact congrArg (fun b => Except.ok (_, b :: _)) (disguise_cons d s found.1).symm

end Block

/-- A method in disguise has the same blocks in disguise, or the same fault. -/
theorem MethodDecl.assemble_disguise (m : MethodDecl) :
    (m.disguise d).assemble = (m.assemble.map (List.map (·.disguise d))).mapError
      fun (fault, p) => (fault, d.position p) := by
  have hbody := Block.assembleFrom_disguise d m.lastPosition .anonymous m.statements
  unfold assemble
  rw [lastPosition_disguise]
  change _ <$> Block.assembleFrom _ _ (m.statements.map (·.disguise d)) = _
  rw [hbody]
  cases Block.assembleFrom m.lastPosition .anonymous m.statements <;> rfl

namespace ClassDecl

theorem assemble_disguise (owner : ClassDecl) (m : MethodDecl) :
    (owner.disguise d).assemble (m.disguise d) =
      ((owner.assemble m).map (List.map (·.disguise d))).mapError (·.disguise d) := by
  unfold assemble
  rw [MethodDecl.assemble_disguise]
  cases m.assemble <;> rfl

end ClassDecl

/-! ## Visits -/

namespace Fixtures

theorem get?_disguise (fs : Fixtures) (r : Role) :
    (fs.disguise d).get? r = (fs.get? r).map (·.disguise d) := by
  cases r <;> rfl

theorem put_disguise (fs : Fixtures) (r : Role) (f : Fixture) :
    (fs.disguise d).put r (f.disguise d) = (fs.put r f).disguise d := by
  cases r <;> rfl

end Fixtures

namespace BuildState

variable (settings : Settings) (owner : ClassDecl)

/-- The visit of a field in disguise is the visit of the field, in disguise. -/
theorem visitField_disguise (f : FieldDecl) (s : BuildState) :
    (s.disguise d).visitField settings (owner.disguise d) (f.disguise d) =
      (s.visitField settings owner f).disguise d := by
  unfold visitField
  rw [FieldDecl.dataField?_disguise]
  cases f.dataField? settings owner with
  | none => rfl
  | some data =>
      simp [Visit.disguise, disguise, FieldSpec.disguise, FieldDecl.disguise]

theorem addFixture_disguise (r : Role) (m : MethodDecl) (s : BuildState) :
    (s.disguise d).addFixture settings (owner.disguise d) r (m.disguise d) =
      (s.addFixture settings owner r m).disguise d := by
  have hget : (s.disguise d).fixtures.get? r = (s.fixtures.get? r).map (·.disguise d) :=
    Fixtures.get?_disguise d s.fixtures r
  have hput : (s.disguise d).fixtures.put r ((m.asFixture r).disguise d) =
      (s.fixtures.put r (m.asFixture r)).disguise d :=
    Fixtures.put_disguise d s.fixtures r (m.asFixture r)
  have hfilled : { s.disguise d with
      fixtures := (s.disguise d).fixtures.put r ((m.asFixture r).disguise d) } =
      { s with fixtures := s.fixtures.put r (m.asFixture r) }.disguise d := by
    rw [hput]
    rfl
  unfold addFixture
  rw [hget]
  cases s.fixtures.get? r with
  | none => exact congrArg (Visit.mk · _ _) hfilled
  | some old =>
      cases settings.duplicates with
      | error => rfl
      | overwrite => exact congrArg (Visit.mk · _ _) hfilled

theorem addFeature_disguise (m : MethodDecl) (s : BuildState) :
    (s.disguise d).addFeature (owner.disguise d) (m.disguise d) =
      (s.addFeature owner m).disguise d := by
  unfold addFeature
  rw [ClassDecl.assemble_disguise]
  cases owner.assemble m with
  | error e => rfl
  | ok blocks =>
      simp [Except.map, Except.mapError, Visit.disguise, disguise, Member.disguise,
        MethodSpec.disguise, MethodDecl.disguise]

theorem addHelper_disguise (m : MethodDecl) (s : BuildState) :
    (s.disguise d).addHelper (m.disguise d) = (s.addHelper m).disguise d := by
  simp [addHelper, Visit.disguise, disguise, Member.disguise, MethodSpec.disguise,
    Block.disguise, Block.single, MethodDecl.disguise]

/-- The visit of a method in disguise is the visit of the method, in disguise. -/
theorem visitMethod_disguise (m : MethodDecl) (s : BuildState) :
    (s.disguise d).visitMethod settings (owner.disguise d) (m.disguise d) =
      (s.visitMethod settings owner m).disguise d := by
  unfold visitMethod
  rw [MethodDecl.classify_disguise]
  cases m.classify with
  | error refusal => rfl
  | ok verdict =>
      cases verdict with
      | ignored => rfl
      | fixture r =>
          dsimp only
          rw [addFixture_disguise]
          rfl
      | feature =>
          dsimp only
          rw [addFeature_disguise]
          rfl
      | helper =>
          dsimp only
          rw [addHelper_disguise]
          rfl

theorem visitFields_disguise (fs : List FieldDecl) (s : BuildState) :
    (s.disguise d).visitFields settings (owner.disguise d) (fs.map (·.disguise d)) =
      ((s.visitFields settings owner fs).1.disguise d,
        (s.visitFields settings owner fs).2.map (·.disguise d)) := by
  induction fs generalizing s with
  | nil => rfl
  | cons f fs ih =>
      rw [List.map_cons, visitFields, visitField_disguise]
      dsimp only [Visit.disguise]
      rw [ih, ← List.map_append]
      rfl

/-- Methods visited in disguise are the methods visited, in disguise. -/
theorem visitMethods_disguise (ms : List MethodDecl) (s : BuildState) :
    (s.disguise d).visitMethods settings (owner.disguise d) (ms.map (·.disguise d)) =
      (s.visitMethods settings owner ms).disguise d := by
  induction ms generalizing s with
  | nil => rfl
  | cons m ms ih =>
      rw [List.map_cons, visitMethods, visitMethods, visitMethod_disguise]
      dsimp only [Visit.disguise]
      cases hfailure : (s.visitMethod settings owner m).failure with
      | some e => simp [hfailure]
      | none => simp [ih, Visit.disguise]

end BuildState

/-! ## Whole classes -/

theorem Fixtures.inOrder_disguise (fs : Fixtures) :
    (fs.disguise d).inOrder = fs.inOrder.map (·.disguise d) := by
  obtain ⟨setup, cleanup, setupSpec, cleanupSpec⟩ := fs
  cases setup <;> cases cleanup <;> cases setupSpec <;> cases cleanupSpec <;> rfl

/-- Outlines count the statements of a block. -/
theorem Block.outline_disguise (b : Block) : (b.disguise d).outline = b.outline :=
  congrArg (BlockOutline.mk b.label b.descriptions) (List.length_map _)

theorem MethodSpec.map_outline_disguise (m : MethodSpec) :
    (m.disguise d).blocks.map Block.outline = m.blocks.map Block.outline := by
  simp [disguise, Block.outline_disguise]

theorem Fixture.outline_disguise (f : Fixture) :
    (AnyMethod.fixture (f.disguise d)).outline = (AnyMethod.fixture f).outline :=
  congrArg (MethodOutline.mk _ _ · _ _) (f.method.map_outline_disguise d)

theorem Member.outline_disguise (m : Member) :
    (AnyMethod.member (m.disguise d)).outline = (AnyMethod.member m).outline := by
  cases m with
  | feature ordinal m => exact congrArg (MethodOutline.mk _ _ · _ _) (m.map_outline_disguise d)
  | helper m => exact congrArg (MethodOutline.mk _ _ · _ _) (m.map_outline_disguise d)

theorem Member.isFeature_disguise (m : Member) : (m.disguise d).isFeature = m.isFeature := by
  cases m <;> rfl

namespace Specification

theorem fixtureMethods_disguise (s : Specification) :
    (s.disguise d).fixtureMethods = s.fixtureMethods.map (·.disguise d) :=
  s.fixtures.inOrder_disguise d

/-- A specification in disguise has the same outline. -/
theorem outline_disguise (s : Specification) : (s.disguise d).outline = s.outline := by
  have hfields : (s.disguise d).fields.map FieldSpec.outline = s.fields.map FieldSpec.outline := by
    simp [disguise, FieldSpec.disguise, FieldSpec.outline]
  have hmethods : (s.disguise d).methods.map (fun m => (AnyMethod.member m).outline) =
      s.methods.map fun m => (AnyMethod.member m).outline := by
    simp [disguise, Member.outline_disguise]
  have hfixtures : (s.disguise d).fixtureMethods.map (fun f => (AnyMethod.fixture f).outline) =
      s.fixtureMethods.map fun f => (AnyMethod.fixture f).outline := by
    simp [fixtureMethods_disguise, Fixture.outline_disguise]
  unfold outline
  rw [hfields, hmethods, hfixtures]
  rfl

/-- A specification in disguise has as many members of every kind. -/
theorem builtEvent_disguise (s : Specification) : (s.disguise d).builtEvent = s.builtEvent := by
  have hfeatures : (s.disguise d).features.length = s.features.length := by
    simp [features, disguise, List.filter_map, Function.comp_def, Member.isFeature_disguise]
  have hhelpers : (s.disguise d).helpers.length = s.helpers.length := by
    simp [helpers, disguise, List.filter_map, Function.comp_def, Member.isFeature_disguise]
  have hfields : (s.disguise d).fields.length = s.fields.length := List.length_map _
  rw [builtEvent, hfields, hfeatures, hhelpers, fixtureMethods_disguise, List.length_map]
  rfl

end Specification

/-- An error tells the same as another one, of the same class and method, at the position in
disguise. -/
structure ParseError.SameInDisguise (d : Disguise) (e e' : ParseError) : Prop where
  /-- The kind of a refused label holds that label and what could have stood in its place. -/
  kind : e'.diagnostic.kind = e.diagnostic.kind
  message : e'.message = e.message
  file : e'.location.file = e.location.file
  className : e'.location.className = e.location.className
  methodName : e'.location.methodName = e.location.methodName
  position : e'.location.position = d.position e.location.position

namespace ClassDecl

variable (c : ClassDecl) (settings : Settings)

/-- The build of a class in disguise is the build of the class, in disguise. -/
theorem build_disguise :
    (c.disguise d).build settings =
      ((c.build settings).1.map (·.disguise d),
        ((c.build settings).2.map (·.disguise d)).mapError (·.disguise d)) := by
  have hfields : BuildState.visitFields settings (c.disguise d) (c.disguise d).fields {} =
      ((c.fieldsVisited settings).disguise d,
        (BuildState.visitFields settings c c.fields {}).2.map (·.disguise d)) :=
    BuildState.visitFields_disguise d settings c c.fields {}
  have hmethods : ((c.fieldsVisited settings).disguise d).visitMethods settings (c.disguise d)
      (c.disguise d).methods =
        ((c.fieldsVisited settings).visitMethods settings c c.methods).disguise d :=
    BuildState.visitMethods_disguise d settings c c.methods _
  have hspec : ∀ s : BuildState,
      (s.disguise d).specification (c.disguise d) = (s.specification c).disguise d := fun _ => rfl
  unfold build
  rw [hfields]
  dsimp only
  rw [hmethods]
  unfold fieldsVisited Visit.disguise
  dsimp only
  cases (BuildState.visitMethods settings c c.methods _).failure with
  | some e =>
      rw [List.map_cons, List.map_append]
      rfl
  | none =>
      dsimp only [Option.map_none]
      rw [List.map_append, List.map_cons, List.map_append, hspec, Specification.builtEvent_disguise]
      rfl

end ClassDecl

end Scenario
