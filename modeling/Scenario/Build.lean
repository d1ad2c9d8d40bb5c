import Scenario.Log

/-! # From a class to its specification

The members of a class are visited in order. A visit changes the state of the build; a visit that
fails leaves the state as it was, but for the ordinal that a feature takes before its body is
assembled. -/

namespace Scenario

/-- What has been collected of a class. -/
structure BuildState where
  fieldCount : Nat := 0
  featureCount : Nat := 0
  fields : List FieldSpec := []
  methods : List Member := []
  fixtures : Fixtures := {}
deriving Repr

/-- What a visit gives: the state after it, the records made, and the error if it failed. -/
structure Visit where
  state : BuildState
  events : List Event
  failure : Option ParseError
deriving Repr

namespace ClassDecl

/-- The blocks of a feature method of a class, or the error at the first label that breaks the
grammar. -/
def assemble (owner : ClassDecl) (m : MethodDecl) : Except ParseError (List Block) :=
  match m.assemble with
  | .ok blocks => .ok blocks
  | .error (fault, position) => .error ⟨.label fault, owner.locate position (some m.name)⟩

variable {owner : ClassDecl} {m : MethodDecl} {blocks : List Block}

/-- The class of a method has a say in the place of an error only. -/
theorem assemble_eq_ok_iff : owner.assemble m = .ok blocks ↔ m.assemble = .ok blocks := by
  unfold assemble
  cases m.assemble with
  | ok found =>
      dsimp only
      rw [Except.ok.injEq, Except.ok.injEq]
  | error e => exact iff_of_false nofun nofun

/-- What keeps a method from having blocks is a fault of a label. -/
theorem exists_fault_of_assemble_eq_error {e : ParseError} (h : owner.assemble m = .error e) :
    ∃ fault, e.refusal = .label fault := by
  unfold assemble at h
  split at h
  · cases h
  · cases h
    exact ⟨_, rfl⟩

end ClassDecl

namespace BuildState

/-- Visits a field. It never fails. -/
def visitField (settings : Settings) (owner : ClassDecl) (f : FieldDecl) (s : BuildState) :
    Visit :=
  match f.dataField? settings owner with
  | none => ⟨s, [.ignoringField owner.name f.name], none⟩
  | some data =>
    let field : FieldSpec :=
      { name := f.name
        ordinal := s.fieldCount
        shared := data.shared
        propertyName := data.propertyName
        position := f.position }
    ⟨{ s with fieldCount := s.fieldCount + 1, fields := s.fields ++ [field] }, [], none⟩

/-- Puts a fixture in the place of its role, which has to be free unless the settings say that
later declarations count. -/
def addFixture (settings : Settings) (owner : ClassDecl) (role : Role) (m : MethodDecl)
    (s : BuildState) : Visit :=
  let fixture : Fixture := ⟨role, ⟨m.name, [Block.single m.statements], m.position⟩⟩
  let filled := { s with fixtures := s.fixtures.put role fixture }
  match s.fixtures.get? role, settings.duplicates with
  | none, _ => ⟨filled, [], none⟩
  | some _, .overwrite => ⟨filled, [.fixtureReplaced owner.name role m.position], none⟩
  | some _, .error => ⟨s, [], some (owner.errorAt m (.duplicateFixture role))⟩

/-- Adds a feature. Its ordinal is taken first, and its body assembled then. -/
def addFeature (owner : ClassDecl) (m : MethodDecl) (s : BuildState) : Visit :=
  let taken := { s with featureCount := s.featureCount + 1 }
  match owner.assemble m with
  | .ok blocks =>
    let feature := Member.feature s.featureCount ⟨m.name, blocks, m.position⟩
    ⟨{ taken with methods := s.methods ++ [feature] }, [], none⟩
  | .error e => ⟨taken, [], some e⟩

/-- Adds a helper. -/
def addHelper (m : MethodDecl) (s : BuildState) : Visit :=
  let helper := Member.helper ⟨m.name, [Block.single m.statements], m.position⟩
  ⟨{ s with methods := s.methods ++ [helper] }, [], none⟩

/-- Visits a method. -/
def visitMethod (settings : Settings) (owner : ClassDecl) (m : MethodDecl) (s : BuildState) :
    Visit :=
  match m.classify with
  | .error refusal => ⟨s, [], some (owner.errorAt m refusal)⟩
  | .ok verdict =>
    let visit : Visit := match verdict with
      | .ignored => ⟨s, [], none⟩
      | .fixture role => s.addFixture settings owner role m
      | .feature => s.addFeature owner m
      | .helper => s.addHelper m
    { visit with events := .method owner.name m.name verdict :: visit.events }

/-- Visits fields one after another. -/
def visitFields (settings : Settings) (owner : ClassDecl) :
    List FieldDecl → BuildState → BuildState × List Event
  | [], s => (s, [])
  | f :: rest, s =>
    let visit := s.visitField settings owner f
    let (t, events) := visitFields settings owner rest visit.state
    (t, visit.events ++ events)

/-- Visits methods one after another, up to the first failure. -/
def visitMethods (settings : Settings) (owner : ClassDecl) :
    List MethodDecl → BuildState → Visit
  | [], s => ⟨s, [], none⟩
  | m :: rest, s =>
    let visit := s.visitMethod settings owner m
    match visit.failure with
    | some _ => visit
    | none =>
      let later := visitMethods settings owner rest visit.state
      { later with events := visit.events ++ later.events }

/-- The specification of a class all of whose members have been visited. -/
def specification (owner : ClassDecl) (s : BuildState) : Specification :=
  { name := owner.name
    sourceFile := owner.sourceFile
    position := owner.position
    fields := s.fields
    methods := s.methods
    fixtures := s.fixtures }

end BuildState

/-- The record of a finished build. -/
def Specification.builtEvent (s : Specification) : Event :=
  .built s.name s.fields.length s.features.length s.helpers.length s.fixtureMethods.length

/-- Builds the specification of a class; the records made on the way come with the result. -/
def ClassDecl.build (c : ClassDecl) (settings : Settings) :
    List Event × Except ParseError Specification :=
  let (afterFields, fieldEvents) := BuildState.visitFields settings c c.fields {}
  let visit := afterFields.visitMethods settings c c.methods
  let events := .building c.name :: (fieldEvents ++ visit.events)
  match visit.failure with
  | some e => (events, .error e)
  | none =>
    let spec := visit.state.specification c
    (events ++ [spec.builtEvent], .ok spec)

/-- The specification of a class, or the first error. -/
def ClassDecl.specification (c : ClassDecl) (settings : Settings) :
    Except ParseError Specification :=
  (c.build settings).2

end Scenario
