import Scenario.Proofs.Block.Segments
import Scenario.Proofs.Build.Members
import Scenario.Specification.Outline

/-! # What an outline tells of the bodies

An outline counts statements and does not show them. Of the body of a feature it still tells the
labels, the literals, and how many statements there are (`MethodDecl.ToldBy`); of any other body it
tells the number of its statements (`MethodDecl.wholeBody`).

`ClassDecl.outline_tells_bodies` says this of every method of a class that builds, and in which
order they stand: fixtures as they run, members as they are declared. -/

namespace Scenario

namespace BlockKind

/-- What is shown of the kinds of a walk are its labels. -/
theorem Walk.map_displayName {after : BlockKind} {labels : List String} {kinds : List BlockKind}
    (w : Walk after labels kinds) : kinds.map displayName = labels := by
  induction w with
  | stop h => rfl
  | step hl h w ih =>
      rw [List.map_cons, ih, displayName_of_ofLabel? (ofLabel?_label? hl)]

end BlockKind

namespace MethodDecl

variable {m : MethodDecl} {ms : List MethodDecl} {r : Role}

/-! ## One method -/

/-- Blocks of an outline tell the body of a method. -/
structure ToldBy (m : MethodDecl) (blocks : List BlockOutline) : Prop where
  /-- There is a block for the part before the first label, and one for each label. -/
  labels : blocks.map (·.label) = "anonymous" :: m.labels
  descriptions : blocks.flatMap (·.descriptions) = m.literals
  /-- Every statement is counted once, be it a literal or not. -/
  statements : (blocks.map fun b => b.statements + b.descriptions.length).sum = m.statements.length

/-- The blocks of a feature tell its body. -/
theorem toldBy_of_assemble {blocks : List Block} (h : m.assemble = .ok blocks) :
    m.ToldBy (blocks.map Block.outline) := by
  obtain ⟨kinds, hkinds, w⟩ := exists_walk_of_assemble h
  constructor
  · have hlabels : blocks.map (·.label) = (blocks.map (·.kind)).map BlockKind.displayName := by
      rw [List.map_map]
      rfl
    rw [List.map_map, ← w.map_displayName]
    show blocks.map (·.label) = _
    rw [hlabels, hkinds]
    rfl
  · rw [List.flatMap_map]
    exact flatMap_descriptions h
  · rw [List.map_map]
    exact sum_sizes h

/-- A body that is not divided, in one block. -/
def wholeBody (m : MethodDecl) : BlockOutline := ⟨"anonymous", [], m.statements.length⟩

/-- How a method that is no fixture stands in an outline. -/
inductive OutlinedAs (m : MethodDecl) : MethodOutline → Prop where
  /-- A method with labels is a feature, and has an ordinal. -/
  | feature (ordinal : Nat) (blocks : List BlockOutline) (hl : m.labels ≠ [])
      (hb : m.ToldBy blocks) :
    OutlinedAs m { name := m.name, category := "feature", blocks, ordinal := some ordinal }
  /-- A method without labels is a helper, and has none. -/
  | helper (hl : m.labels = []) :
    OutlinedAs m { name := m.name, category := "helper", blocks := [m.wholeBody] }

/-- A member stands in an outline as its method asks. -/
theorem DeclaredAs.outlinedAs {d : Member} (h : m.DeclaredAs d) :
    m.OutlinedAs (AnyMethod.member d).outline := by
  cases h with
  | feature ordinal blocks hl hb => exact .feature ordinal _ hl (toldBy_of_assemble hb)
  | helper hl => exact .helper hl

/-- How the fixture of a role stands in an outline. -/
def fixtureOutline (m : MethodDecl) (r : Role) : MethodOutline :=
  { name := m.name, category := "fixture", blocks := [m.wholeBody], role := some r }

/-- The method that counts for a role: the last one that the user wrote under its name. -/
def lastNamed? (ms : List MethodDecl) (r : Role) : Option MethodDecl :=
  (ms.filter (·.IsFixture r)).getLast?

theorem outline_lastFixture? (ms : List MethodDecl) (r : Role) :
    (lastFixture? ms r).map (fun f => (AnyMethod.fixture f).outline) =
      (lastNamed? ms r).map (·.fixtureOutline r) := by
  rw [lastFixture?, Option.map_map]
  rfl

end MethodDecl

/-! ## A whole class -/

namespace Role

/-- The roles in the order in which their fixtures run. -/
def inOrder : List Role := [.setupSpec, .setup, .cleanup, .cleanupSpec]

end Role

/-- The declared fixtures are those in the places of the roles, in order. -/
theorem Fixtures.inOrder_eq (fs : Fixtures) : fs.inOrder = Role.inOrder.filterMap fs.get? := by
  simp only [inOrder, Role.inOrder, List.filterMap_cons, List.filterMap_nil, get?, id]

namespace ClassDecl

variable {c : ClassDecl} {settings : Settings} {spec : Specification}

/-- An outline tells the methods of a class. -/
structure OutlinedBy (c : ClassDecl) (o : Outline) : Prop where
  /-- The methods that the user wrote and that are no fixtures stand in their order. -/
  methods : List.Forall₂ MethodDecl.OutlinedAs (c.methods.filter (·.IsMember)) o.methods
  /-- The fixtures stand in the order in which they run, whatever their order in the class. -/
  fixtures : o.fixtures = Role.inOrder.filterMap fun r =>
    (MethodDecl.lastNamed? c.methods r).map (·.fixtureOutline r)

/-- The outline of a class that builds tells the bodies of its methods. Labels stand in it as they
are written, since a label is what is shown of the kind that it introduces. -/
theorem outline_tells_bodies (h : c.specification settings = .ok spec) :
    c.OutlinedBy spec.outline ∧
      ∀ label kind, BlockKind.ofLabel? label = some kind → kind.displayName = label := by
  refine ⟨⟨?_, ?_⟩, fun label kind => BlockKind.displayName_of_ofLabel?⟩
  · show List.Forall₂ _ _ (spec.methods.map fun d => (AnyMethod.member d).outline)
    rw [List.forall₂_map_right_iff]
    exact (forall₂_declaredAs_methods h).imp fun m d hd => hd.outlinedAs
  · show (spec.fixtures.inOrder.map fun f => (AnyMethod.fixture f).outline) = _
    rw [Fixtures.inOrder_eq, List.map_filterMap]
    apply List.filterMap_congr
    intro r _
    rw [get?_fixtures_eq h, MethodDecl.outline_lastFixture?]

/-- A class with bodies of every kind, and with a fixture that is declared twice. -/
def describedSpec : ClassDecl where
  name := "DescribedSpec"
  methods :=
    [{ name := "cleanup", statements := [{ label := "then" }] },
      { name := "setup", statements := [{}, {}] },
      { name := "pushing", statements :=
          [{ literal := "an empty stack" }, {}, { label := "when", literal := "pushed" },
            { literal := "twice" }, {}, { label := "then" }, { label := "then" }] },
      { name := "fill", statements := [{ literal := "items" }, {}] },
      { name := "setup", statements := [{ literal := "a fresh stack" }, {}, {}] }]

/-- Where later fixtures count, the class builds, and its outline tells its bodies. -/
theorem outline_tells_bodies_describedSpec :
    ∃ spec, describedSpec.specification { duplicates := .overwrite } = .ok spec ∧
      describedSpec.OutlinedBy spec.outline ∧
      spec.outline.fixtures.map (fun o => (o.role, o.blocks)) =
        [(some .setup, [⟨"anonymous", [], 3⟩]), (some .cleanup, [⟨"anonymous", [], 1⟩])] := by
  have h : describedSpec.specification { duplicates := .overwrite } =
      .ok (describedSpec.account { duplicates := .overwrite }) := rfl
  exact ⟨_, h, (outline_tells_bodies h).1, rfl⟩

end ClassDecl

end Scenario
