import Scenario.Proofs.Specification.Outline
import Scenario.Specification.Listing

/-! # What a listing shows

A listing takes the number of statements of a fixture or a helper from its first block, and leaves
out a block without anything in it. For a class that builds neither goes wrong: there is a first
block, and the only block that may be empty is the one before the first label.

So the listing can be told from the declarations alone (`ClassDecl.listing`): a group of the data
fields, a line for each role that is declared, and a line for each other method, with the parts of
its body below it if it has labels. `ClassDecl.listing_shows_members` says that this is the listing
of the specification. -/

namespace Scenario

open Text.Markup (escape styled)

/-! ## Bodies -/

/-- The line of a part of a body: its label, how many statements there are besides the literals, and
the literals. -/
def Statement.partLine (label : String) (part : List Statement) : Listing :=
  let literals := part.filterMap (·.literal)
  .leaf (s!"{label}: {(part.filter (·.literal.isNone)).length} statements" ++
    if literals.isEmpty then ""
    else " - " ++ "; ".intercalate (literals.map fun d => "\"" ++ escape d ++ "\""))

namespace Block

variable {b : Block} {bs : List Block} {ss : List Statement} {sss : List (List Statement)}

/-- The line of a block is that of the statements it holds. -/
theorem Holds.listing_eq (h : b.Holds ss) : b.listing = Statement.partLine b.label ss := by
  simp only [listing, Statement.partLine, h.descriptions, h.statements]

/-- The lines of blocks are those of the statements they hold, each under its label. -/
theorem map_listing_of_holds (h : List.Forall₂ Holds bs sss) :
    bs.map listing = List.zipWith Statement.partLine (bs.map label) sss := by
  induction h with
  | nil => rfl
  | cons hb _ ih => rw [List.map_cons, List.map_cons, List.zipWith_cons_cons, hb.listing_eq, ih]

/-- A block before the first label is listed if it holds something. -/
theorem Holds.isListed_iff (h : b.Holds ss) (hkind : b.kind = .anonymous) :
    b.isListed = true ↔ ss ≠ [] := by
  have hanonymous : b.isAnonymous = true := by rw [isAnonymous, hkind]; rfl
  rw [isListed, hanonymous, Bool.true_and, Bool.not_eq_true']
  constructor
  · rintro hempty rfl
    rw [isEmpty, h.descriptions, h.statements] at hempty
    exact absurd hempty (by decide)
  · exact h.isEmpty_eq_false

/-- Blocks that labels open are all listed. -/
theorem filter_isListed_of_holds (h : List.Forall₂ Holds bs sss)
    (hlabels : ∀ part ∈ sss, Statement.BeginsWithLabel part) : bs.filter isListed = bs := by
  rw [List.filter_eq_self]
  intro b hb
  rw [isListed, forall_isEmpty_eq_false h hlabels b hb, Bool.and_false]
  rfl

end Block

namespace MethodDecl

variable {m : MethodDecl} {ms : List MethodDecl} {r : Role} {blocks : List Block} {n : Nat}

/-- The statements before the first label. -/
def leading (m : MethodDecl) : List Statement := (Statement.cut m.statements).1

/-- The parts of a body that labels begin. -/
def labelledParts (m : MethodDecl) : List (List Statement) := (Statement.cut m.statements).2

/-- There is a part for every label. -/
theorem length_labelledParts (m : MethodDecl) : m.labelledParts.length = m.labels.length :=
  (Statement.isCut_cut m.statements).length_later

/-- The lines of a body: one for the statements before the first label, if there are any, and one
for each label. -/
def bodyLines (m : MethodDecl) : List Listing :=
  (if m.leading = [] then [] else [Statement.partLine "anonymous" m.leading]) ++
    List.zipWith Statement.partLine m.labels m.labelledParts

/-- The blocks of a body that are listed give its lines. -/
theorem map_listing_of_assemble (h : m.assemble = .ok blocks) :
    (blocks.filter Block.isListed).map Block.listing = m.bodyLines := by
  obtain ⟨kinds, hkinds, w⟩ := exists_walk_of_assemble h
  have hholds := forall₂_holds_segments h
  have hlater := (Statement.isCut_cut m.statements).later
  cases hholds with
  | @cons b _ bs _ hb hbs =>
      obtain ⟨hfirst, hopened⟩ := List.cons_eq_cons.mp hkinds
      have hkind : b.kind = .anonymous := hfirst
      have hlabels : bs.map (·.label) = m.labels := by
        rw [← w.map_displayName, ← hopened, List.map_map]
        rfl
      have hlabel : b.label = "anonymous" := by rw [Block.label, hkind]; rfl
      have hopenedLines : (bs.filter Block.isListed).map Block.listing =
          List.zipWith Statement.partLine m.labels m.labelledParts := by
        rw [Block.filter_isListed_of_holds hbs hlater, Block.map_listing_of_holds hbs, hlabels]
        rfl
      rw [bodyLines, ← hopenedLines]
      by_cases hleading : m.leading = []
      · have hlisted : ¬b.isListed = true := fun h => (hb.isListed_iff hkind).mp h hleading
        rw [if_pos hleading, List.filter_cons_of_neg hlisted, List.nil_append]
      · rw [if_neg hleading, List.filter_cons_of_pos ((hb.isListed_iff hkind).mpr hleading),
          List.map_cons, hb.listing_eq, hlabel, List.singleton_append]
        rfl

/-! ## Methods -/

/-- The line of a fixture. -/
def fixtureLine (m : MethodDecl) : Listing :=
  .leaf (styled "magenta" "fixture" ++ s!" {escape m.name}() ({m.statements.length} statements)")

/-- The line of a helper. -/
def helperLine (m : MethodDecl) : Listing :=
  .leaf (styled "dim" "helper" ++ s!" {escape m.name}() ({m.statements.length} statements)")

/-- The line of a feature with an ordinal, and those of its body below it. -/
def featureLine (m : MethodDecl) (n : Nat) : Listing :=
  .node (styled "green" s!"feature {(n : Int)}" ++ " " ++ escape m.name) m.bodyLines

/-- The line of a method that is no fixture; the ordinal counts if it is a feature. -/
def memberLine (m : MethodDecl) (n : Nat) : Listing :=
  if m.labels = [] then m.helperLine else m.featureLine n

/-- The lines of methods that are no fixtures, the features among them numbered from `n` on. -/
def memberLines : Nat → List MethodDecl → List Listing
  | _, [] => []
  | n, m :: ms => m.memberLine n :: memberLines (n + if m.labels = [] then 0 else 1) ms

theorem listing?_asFixture (m : MethodDecl) (r : Role) :
    (m.asFixture r).listing? = some m.fixtureLine := rfl

/-- A method that is well formed has its line. -/
theorem listing?_asMember (h : m.IsMember) (hw : m.WellFormed) (n : Nat) :
    (m.asMember n).listing? = some (m.memberLine n) := by
  unfold memberLine
  by_cases hl : m.labels = []
  · rw [if_pos hl, asMember_of_no_labels hl]
    rfl
  · obtain ⟨blocks, hb⟩ := exists_assemble_eq_ok_iff_labels_mem.mpr (hw.labels_mem hl h.2)
    rw [if_neg hl, asMember_of_assemble hl hb, featureLine, ← map_listing_of_assemble hb]
    rfl

/-- Methods that are well formed have their lines, one after another. -/
theorem mapM_listing?_numbered (hms : ∀ m ∈ ms, m.IsMember ∧ m.WellFormed) (n : Nat) :
    (numbered n ms).mapM Member.listing? = some (memberLines n ms) := by
  induction ms generalizing n with
  | nil => rfl
  | cons m ms ih =>
      obtain ⟨hm, hms⟩ := List.forall_mem_cons.mp hms
      rw [numbered, List.mapM_cons, listing?_asMember hm.1 hm.2, ih hms]
      rfl

/-- The line of a role: that of the method which counts for it. -/
def roleLine? (ms : List MethodDecl) (r : Role) : Option Listing :=
  (lastNamed? ms r).map fixtureLine

/-- The last fixtures of roles have their lines, one after another. -/
theorem mapM_listing?_lastFixture? (ms : List MethodDecl) (roles : List Role) :
    (roles.filterMap (lastFixture? ms)).mapM Fixture.listing? =
      some (roles.filterMap (roleLine? ms)) := by
  induction roles with
  | nil => rfl
  | cons r roles ih =>
      have hfixture : lastFixture? ms r = (lastNamed? ms r).map (·.asFixture r) := rfl
      rw [List.filterMap_cons, List.filterMap_cons, hfixture, roleLine?]
      cases lastNamed? ms r with
      | none => exact ih
      | some m =>
          simp only [Option.map_some, List.mapM_cons, listing?_asFixture, ih]
          rfl

theorem length_memberLines (ms : List MethodDecl) (n : Nat) :
    (memberLines n ms).length = ms.length := by
  induction ms generalizing n with
  | nil => rfl
  | cons m ms ih => rw [memberLines, List.length_cons, ih, List.length_cons]

theorem length_bodyLines (m : MethodDecl) :
    m.bodyLines.length = (if m.leading = [] then 0 else 1) + m.labels.length := by
  rw [bodyLines, List.length_append, List.length_zipWith, length_labelledParts, Nat.min_self]
  split <;> rfl

end MethodDecl

/-! ## A whole class -/

/-- The line of a data field with its ordinal. -/
def FieldDecl.line (f : FieldDecl) (settings : Settings) (ordinal : Nat) : Listing :=
  .leaf (s!"{(ordinal : Int)}: {escape f.name}" ++
    if f.isAnnotatedWith settings.sharedMarker then " " ++ styled "cyan" "(shared)" else "")

namespace ClassDecl

variable {c : ClassDecl} {settings : Settings} {spec : Specification}

/-- The data fields of a class. -/
def dataFields (c : ClassDecl) (settings : Settings) : List FieldDecl :=
  c.fields.filter (·.IsData settings c)

/-- The group of the data fields, if there are any. -/
def fieldGroup (c : ClassDecl) (settings : Settings) : List Listing :=
  if c.dataFields settings = [] then []
  else [.node "fields" ((c.dataFields settings).mapIdx fun i f => f.line settings i)]

/-- The lines of the declared fixtures, in the order in which they run. -/
def fixtureLines (c : ClassDecl) : List Listing :=
  Role.inOrder.filterMap (MethodDecl.roleLine? c.methods)

/-- The lines of the other methods that the user wrote, in the order of their declarations. -/
def memberLines (c : ClassDecl) : List Listing :=
  MethodDecl.memberLines 0 (c.methods.filter (·.IsMember))

/-- A class as a tree of lines. -/
def listing (c : ClassDecl) (settings : Settings) : Listing :=
  .node (styled "bold" (escape c.name)) (c.fieldGroup settings ++ c.fixtureLines ++ c.memberLines)

/-- The fixtures of a specification are the last ones of the roles, in order. -/
theorem fixtureMethods_eq_filterMap (h : c.specification settings = .ok spec) :
    spec.fixtureMethods = Role.inOrder.filterMap (MethodDecl.lastFixture? c.methods) := by
  rw [Specification.fixtureMethods, Fixtures.inOrder_eq]
  exact List.filterMap_congr fun r _ => get?_fixtures_eq h r

/-- The listing of a specification is that of its class. -/
theorem listing?_of_specification (h : c.specification settings = .ok spec) :
    spec.listing? = some (c.listing settings) := by
  have hname : spec.name = c.name := by
    rw [specification_eq_account h]
    rfl
  have hfields : (if spec.fields.isEmpty then []
      else [Listing.node "fields" (spec.fields.map FieldSpec.listing)]) =
        c.fieldGroup settings := by
    rw [fields_eq_mapIdx h, fieldGroup, dataFields]
    simp only [List.isEmpty_iff, List.mapIdx_eq_zipIdx_map, List.map_eq_nil_iff,
      List.zipIdx_eq_nil_iff, List.map_map]
    rfl
  rw [Specification.listing?, hfields, hname, fixtureMethods_eq_filterMap h,
    MethodDecl.mapM_listing?_lastFixture?, methods_eq_numbered h,
    MethodDecl.mapM_listing?_numbered (forall_mem_members h)]
  rfl

/-- Every fixture has a first block. -/
theorem blocks_ne_nil_of_mem_fixtureMethods (h : c.specification settings = .ok spec) {f : Fixture}
    (hf : f ∈ spec.fixtureMethods) : f.method.blocks ≠ [] := by
  rw [fixtureMethods_eq_filterMap h] at hf
  obtain ⟨r, -, hr⟩ := List.mem_filterMap.mp hf
  obtain ⟨m, -, rfl⟩ := Option.map_eq_some_iff.mp hr
  exact List.cons_ne_nil _ _

/-- Every feature and every helper has a first block. -/
theorem blocks_ne_nil_of_mem_methods (h : c.specification settings = .ok spec) {d : Member}
    (hd : d ∈ spec.methods) : d.method.blocks ≠ [] := by
  obtain ⟨m, -, -, hdeclared, -⟩ := exists_of_mem_methods h hd
  cases hdeclared with
  | feature ordinal blocks hl hb =>
      obtain ⟨b, bs, -, rfl⟩ := MethodDecl.assemble_eq_ok_iff.mp hb
      exact List.cons_ne_nil b bs
  | helper hl => exact List.cons_ne_nil _ _

/-- A tree of lines lists a class that has a specification. -/
structure ListedBy (c : ClassDecl) (settings : Settings) (spec : Specification)
    (tree : Listing) : Prop where
  /-- Below the name stand the group of the fields, the fixtures as they run, and the other methods
  as they are declared. -/
  tree : tree = c.listing settings
  /-- The fields are listed by their ordinals. -/
  fields : spec.fields = (c.dataFields settings).mapIdx fun i f => f.asField settings c i
  /-- There is a line for every fixture. -/
  fixtures : c.fixtureLines.length = spec.fixtureMethods.length
  /-- There is a line for every feature and every helper. -/
  members : c.memberLines.length = spec.methods.length
  /-- The lines of a body are those of its labels, and one more for what precedes the first label if
  there is something. -/
  bodies (m : MethodDecl) : Statement.IsCut m.statements m.leading m.labelledParts ∧
    m.bodyLines.length = (if m.leading = [] then 0 else 1) + m.labels.length

/-- Every class that builds is listed: no fixture or helper lacks the block whose statements are
counted, and nothing of the class is left out or listed twice. -/
theorem listing_shows_members (h : c.specification settings = .ok spec) :
    (∀ f ∈ spec.fixtureMethods, f.method.blocks ≠ []) ∧
      (∀ d ∈ spec.methods, d.method.blocks ≠ []) ∧
      ∃ tree, spec.listing? = some tree ∧ c.ListedBy settings spec tree := by
  refine ⟨fun f => blocks_ne_nil_of_mem_fixtureMethods h, fun d => blocks_ne_nil_of_mem_methods h,
    c.listing settings, listing?_of_specification h, ?_⟩
  constructor
  case tree => rfl
  case fields => exact fields_eq_mapIdx h
  case fixtures =>
    rw [fixtureMethods_eq_filterMap h, fixtureLines, List.length_filterMap_eq_countP,
      List.length_filterMap_eq_countP]
    simp only [MethodDecl.roleLine?, MethodDecl.lastFixture?, MethodDecl.lastNamed?,
      Option.isSome_map]
  case members =>
    rw [memberLines, MethodDecl.length_memberLines, (forall₂_declaredAs_methods h).length_eq]
  case bodies => exact fun m => ⟨Statement.isCut_cut m.statements, m.length_bodyLines⟩

/-- A class with a fixture that is declared twice, and with bodies that begin with and without a
label. -/
def listedSpec : ClassDecl where
  name := "StackSpec"
  fields := [{ name := "$size" }, { name := "log", annotations := ["Shared"] }, { name := "stack" }]
  methods :=
    [{ name := "setup", statements := [{}] },
      { name := "pushing", statements :=
          [{ label := "when" }, {}, { label := "then", literal := "one element" }] },
      { name := "setupSpec" },
      { name := "fill", statements := [{ literal := "items" }, {}] },
      { name := "popping", statements := [{ literal := "" }, { label := "expect" }] },
      { name := "setup", statements := [{}, {}] }]

/-- Where later fixtures count, the class is listed by these lines. -/
theorem listing_shows_members_listedSpec :
    ∃ spec tree, listedSpec.specification { duplicates := .overwrite } = .ok spec ∧
      spec.listing? = some tree ∧ listedSpec.ListedBy { duplicates := .overwrite } spec tree ∧
      tree.children =
        [.node "fields" [.leaf "0: log [cyan](shared)[/cyan]", .leaf "1: stack"],
          .leaf "[magenta]fixture[/magenta] setupSpec() (0 statements)",
          .leaf "[magenta]fixture[/magenta] setup() (2 statements)",
          .node "[green]feature 0[/green] pushing"
            [.leaf "when: 2 statements", .leaf "then: 0 statements - \"one element\""],
          .leaf "[dim]helper[/dim] fill() (2 statements)",
          .node "[green]feature 1[/green] popping"
            [.leaf "anonymous: 0 statements - \"\"", .leaf "expect: 1 statements"]] := by
  have h : listedSpec.specification { duplicates := .overwrite } =
      .ok (listedSpec.account { duplicates := .overwrite }) := rfl
  obtain ⟨-, -, tree, htree, hlisted⟩ := listing_shows_members h
  refine ⟨_, tree, h, htree, hlisted, ?_⟩
  rw [hlisted.tree]
  rfl

end ClassDecl

end Scenario
