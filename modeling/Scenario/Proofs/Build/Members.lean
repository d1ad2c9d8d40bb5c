import Scenario.Proofs.Build.WellFormed
import Mathlib.Algebra.BigOperators.Group.List.Basic
import Mathlib.Algebra.GroupWithZero.Nat

/-! # The members of a specification

A class that builds is told member by member. The methods are added one after another
(`BuildState.after`), and the parts of the state that this fills do not touch each other: members
are the methods that are no fixtures, numbered (`BuildState.methods_foldl_after`), and in the place
of a role stands the last method of its name (`BuildState.get?_fixtures_foldl_after`).

`ClassDecl.specification_accounts_for_members` puts the parts together for a class without repeated
fixtures. -/

namespace Scenario

namespace MethodDecl

variable {m : MethodDecl} {ms : List MethodDecl}

/-- How a method that is no fixture stands in a specification. -/
inductive DeclaredAs (m : MethodDecl) : Member → Prop where
  /-- A method with labels is a feature, in blocks. -/
  | feature (ordinal : Nat) (blocks : List Block) (hl : m.labels ≠ [])
      (hb : m.assemble = .ok blocks) :
    DeclaredAs m (.feature ordinal ⟨m.name, blocks, m.position⟩)
  /-- A method without labels is a helper, in one block. -/
  | helper (hl : m.labels = []) :
    DeclaredAs m (.helper ⟨m.name, [Block.single m.statements], m.position⟩)

/-- A method that is well formed stands as its member. -/
theorem declaredAs_asMember (h : m.IsMember) (hw : m.WellFormed) (n : Nat) :
    m.DeclaredAs (m.asMember n) := by
  by_cases hl : m.labels = []
  · rw [asMember_of_no_labels hl]
    exact .helper hl
  · obtain ⟨blocks, hb⟩ :=
      exists_assemble_eq_ok_iff_labels_mem.mpr (hw.labels_mem hl h.2)
    rw [asMember_of_assemble hl hb]
    exact .feature n blocks hl hb

theorem name_asMember (m : MethodDecl) (n : Nat) : (m.asMember n).method.name = m.name := by
  unfold asMember
  split <;> rfl

theorem ordinal?_asMember (m : MethodDecl) (n : Nat) :
    (m.asMember n).ordinal? = if m.labels = [] then none else some (n : Int) := by
  unfold asMember
  split <;> rfl

/-- Methods as members, the features among them numbered from `n` on. -/
def numbered : Nat → List MethodDecl → List Member
  | _, [] => []
  | n, m :: ms => m.asMember n :: numbered (n + if m.labels = [] then 0 else 1) ms

/-- Every method stands in its turn. -/
theorem forall₂_declaredAs_numbered (hms : ∀ m ∈ ms, m.IsMember ∧ m.WellFormed) (n : Nat) :
    List.Forall₂ DeclaredAs ms (numbered n ms) := by
  induction ms generalizing n with
  | nil => exact .nil
  | cons m ms ih =>
      obtain ⟨hm, hms⟩ := List.forall_mem_cons.mp hms
      exact .cons (declaredAs_asMember hm.1 hm.2 n) (ih hms _)

/-- Every member is a method in its turn, with a number that the methods before it bound. -/
theorem exists_of_mem_numbered {d : Member} {n : Nat} (h : d ∈ numbered n ms) :
    ∃ m ∈ ms, ∃ k, d = m.asMember k ∧ k < n + ms.length := by
  induction ms generalizing n with
  | nil => cases h
  | cons m ms ih =>
      rw [numbered] at h
      rw [List.length_cons]
      rcases List.mem_cons.mp h with rfl | h
      · exact ⟨m, List.mem_cons_self, n, rfl, by omega⟩
      · obtain ⟨m', hm', k, rfl, hk⟩ := ih h
        refine ⟨m', List.mem_cons_of_mem m hm', k, rfl, ?_⟩
        split at hk <;> omega

/-- The features have the ordinals from `n` on, without a gap. -/
theorem map_ordinal?_numbered (ms : List MethodDecl) (n : Nat) :
    ((numbered n ms).filter (·.isFeature)).map Member.ordinal? =
      (List.range' n ((numbered n ms).filter (·.isFeature)).length).map
        fun j : Nat => some (j : Int) := by
  induction ms generalizing n with
  | nil => rfl
  | cons m ms ih =>
      by_cases hl : m.labels = []
      · have hhelper : (m.asMember n).isFeature = false := by
          rw [asMember_of_no_labels hl]
          rfl
        rw [numbered, if_pos hl, List.filter_cons_of_neg (by simp [hhelper])]
        exact ih n
      · have hfeature : (m.asMember n).isFeature = true ∧
            (m.asMember n).ordinal? = some (n : Int) := by
          rw [asMember, if_neg hl]
          exact ⟨rfl, rfl⟩
        rw [numbered, if_neg hl, List.filter_cons_of_pos hfeature.1, List.map_cons,
          List.length_cons, List.range'_succ, List.map_cons, hfeature.2]
        exact congrArg _ (ih (n + 1))

/-- The last fixture that is declared for a role. -/
def lastFixture? (ms : List MethodDecl) (r : Role) : Option Fixture :=
  (ms.filter (·.IsFixture r)).getLast?.map (·.asFixture r)

/-- Where a role is declared once at most, its last fixture is the one declared. -/
theorem lastFixture?_eq_some_iff {r : Role} (hu : ms.countP (·.IsFixture r) ≤ 1) {f : Fixture} :
    lastFixture? ms r = some f ↔ ∃ m ∈ ms, m.IsFixture r ∧ f = m.asFixture r := by
  rw [List.countP_eq_length_filter] at hu
  have hmem : ∀ m, m ∈ ms.filter (·.IsFixture r) ↔ m ∈ ms ∧ m.IsFixture r := by
    intro m
    rw [List.mem_filter, decide_eq_true_iff]
  unfold lastFixture?
  cases hfilter : ms.filter (·.IsFixture r) with
  | nil =>
      refine iff_of_false nofun ?_
      rintro ⟨m, hm, hr, -⟩
      exact List.not_mem_nil (hfilter ▸ (hmem m).mpr ⟨hm, hr⟩)
  | cons d rest =>
      rw [hfilter] at hu hmem
      obtain rfl : rest = [] := List.length_eq_zero_iff.mp (by simpa using hu)
      simp only [List.mem_singleton] at hmem
      constructor
      · intro h
        obtain ⟨hd, hr⟩ := (hmem d).mp rfl
        exact ⟨d, hd, hr, (Option.some.inj h).symm⟩
      · rintro ⟨m, hm, hr, rfl⟩
        rw [(hmem m).mpr ⟨hm, hr⟩]
        rfl

/-- Where a role is declared once at most, its place is filled as often as it is declared. -/
theorem toNat_isSome_lastFixture? {r : Role} (hu : ms.countP (·.IsFixture r) ≤ 1) :
    (lastFixture? ms r).isSome.toNat = ms.countP (·.IsFixture r) := by
  rw [List.countP_eq_length_filter] at hu ⊢
  rw [lastFixture?, Option.isSome_map]
  cases hfilter : ms.filter (·.IsFixture r) with
  | nil => rfl
  | cons d rest =>
      rw [hfilter] at hu
      obtain rfl : rest = [] := List.length_eq_zero_iff.mp (by simpa using hu)
      rfl

/-- A method that the user wrote is a member, or the fixture of exactly one role. -/
theorem toNat_written_eq (m : MethodDecl) :
    (!m.isSynthetic).toNat =
      (decide m.IsMember).toNat + (Role.all.map fun r => (decide (m.IsFixture r)).toNat).sum := by
  cases m.standing with
  | synthetic hs =>
      -- Neither side counts the method.
      have hr : ∀ r, ¬m.IsFixture r := fun r => not_isFixture_of_synthetic hs
      simp only [hs, not_isMember_of_synthetic hs, hr]
      rfl
  | fixture r hr =>
      have hr' : ∀ r', m.IsFixture r' ↔ r = r' := fun r' => ⟨hr.unique, fun h => h ▸ hr⟩
      simp only [hr.1, hr.not_isMember, hr']
      cases r <;> rfl
  | member hm =>
      have hr : ∀ r, ¬m.IsFixture r := fun r => hm.not_isFixture
      simp only [hm.1, hm, hr]
      rfl

/-- The methods that the user wrote are members and fixtures. -/
theorem countP_written_eq (ms : List MethodDecl) :
    ms.countP (!·.isSynthetic) =
      ms.countP (·.IsMember) + (Role.all.map fun r => ms.countP (·.IsFixture r)).sum := by
  induction ms with
  | nil => rfl
  | cons m ms ih =>
      have hcons : ∀ p : MethodDecl → Bool, (m :: ms).countP p = ms.countP p + (p m).toNat := by
        intro p
        rw [List.countP_cons]
        cases p m <;> rfl
      simp only [hcons, List.sum_map_add, ih, m.toNat_written_eq]
      omega

end MethodDecl

namespace Fixtures

/-- Fixtures are known by what stands in the places of the roles. -/
theorem ext_get? {fs fs' : Fixtures} (h : ∀ r, fs.get? r = fs'.get? r) : fs = fs' := by
  obtain ⟨setup, cleanup, setupSpec, cleanupSpec⟩ := fs
  obtain ⟨setup', cleanup', setupSpec', cleanupSpec'⟩ := fs'
  obtain rfl : setup = setup' := h .setup
  obtain rfl : cleanup = cleanup' := h .cleanup
  obtain rfl : setupSpec = setupSpec' := h .setupSpec
  obtain rfl : cleanupSpec = cleanupSpec' := h .cleanupSpec
  rfl

/-- The declared fixtures are as many as the places that are filled. -/
theorem length_inOrder (fs : Fixtures) :
    fs.inOrder.length = (Role.all.map fun r => (fs.get? r).isSome.toNat).sum := by
  obtain ⟨setup, cleanup, setupSpec, cleanupSpec⟩ := fs
  cases setup <;> cases cleanup <;> cases setupSpec <;> cases cleanupSpec <;> rfl

end Fixtures

namespace BuildState

variable {s : BuildState} {ms : List MethodDecl}

/-! ## Methods added one after another -/

/-- Methods add nothing to the fields. -/
theorem fields_foldl_after (ms : List MethodDecl) (s : BuildState) :
    (ms.foldl after s).fields = s.fields := by
  induction ms generalizing s with
  | nil => rfl
  | cons m ms ih =>
      rw [List.foldl_cons, ih]
      unfold after
      split
      · rfl
      · split <;> rfl

/-- The members are the methods that are no fixtures, numbered. -/
theorem methods_foldl_after (ms : List MethodDecl) (s : BuildState) :
    (ms.foldl after s).methods =
      s.methods ++ MethodDecl.numbered s.featureCount (ms.filter (·.IsMember)) := by
  induction ms generalizing s with
  | nil => exact (List.append_nil _).symm
  | cons m ms ih =>
      rw [List.foldl_cons, ih]
      cases m.standing with
      | synthetic hs =>
          have hm : ¬m.IsMember := MethodDecl.not_isMember_of_synthetic hs
          rw [s.after_of_synthetic hs, List.filter_cons_of_neg (by simpa using hm)]
      | fixture r hr =>
          rw [s.after_of_fixture hr, List.filter_cons_of_neg (by simpa using hr.not_isMember)]
      | member hm =>
          rw [s.after_of_member hm, List.filter_cons_of_pos (by simpa using hm)]
          exact List.append_assoc _ _ _

/-- In the place of a role stands the last method of its name, or what stood there before. -/
theorem get?_fixtures_foldl_after (ms : List MethodDecl) (s : BuildState) (r : Role) :
    (ms.foldl after s).fixtures.get? r =
      (MethodDecl.lastFixture? ms r).or (s.fixtures.get? r) := by
  unfold MethodDecl.lastFixture?
  induction ms generalizing s with
  | nil => rfl
  | cons m ms ih =>
      rw [List.foldl_cons, ih, get?_fixtures_after]
      by_cases hr : m.IsFixture r
      · rw [if_pos hr, List.filter_cons_of_pos (by simpa using hr), List.getLast?_cons]
        cases (ms.filter (·.IsFixture r)).getLast? <;> rfl
      · rw [if_neg hr, List.filter_cons_of_neg (by simpa using hr)]

end BuildState

namespace ClassDecl

variable {c : ClassDecl} {settings : Settings} {spec : Specification}

/-! ## The whole class -/

/-- What is told of a class that builds, member by member. -/
def account (c : ClassDecl) (settings : Settings) : Specification where
  name := c.name
  sourceFile := c.sourceFile
  position := c.position
  fields := (c.fields.filter (·.IsData settings c)).mapIdx fun i f => f.asField settings c i
  methods := MethodDecl.numbered 0 (c.methods.filter (·.IsMember))
  fixtures :=
    { setup := MethodDecl.lastFixture? c.methods .setup
      cleanup := MethodDecl.lastFixture? c.methods .cleanup
      setupSpec := MethodDecl.lastFixture? c.methods .setupSpec
      cleanupSpec := MethodDecl.lastFixture? c.methods .cleanupSpec }

/-- A class that builds gives the account of it. -/
theorem specification_eq_account (h : c.specification settings = .ok spec) :
    spec = c.account settings := by
  rw [← (specification_eq_ok_iff.mp h).2, account]
  unfold BuildState.specification
  congr 1
  · rw [BuildState.fields_foldl_after, fieldsVisited, BuildState.visitFields_fst,
      List.mapIdx_eq_zipIdx_map]
    rfl
  · rw [BuildState.methods_foldl_after, fieldsVisited, BuildState.visitFields_fst]
    rfl
  · refine Fixtures.ext_get? fun r => ?_
    rw [BuildState.get?_fixtures_foldl_after, fieldsVisited, BuildState.visitFields_fst]
    cases r <;> exact Option.or_none

/-- In a class that builds, the data fields are numbered in the order of their declarations. -/
theorem fields_eq_mapIdx (h : c.specification settings = .ok spec) :
    spec.fields =
      (c.fields.filter (·.IsData settings c)).mapIdx fun i f => f.asField settings c i := by
  rw [specification_eq_account h]
  rfl

/-- In a class that builds, the members are its methods that are no fixtures, numbered. -/
theorem methods_eq_numbered (h : c.specification settings = .ok spec) :
    spec.methods = MethodDecl.numbered 0 (c.methods.filter (·.IsMember)) := by
  rw [specification_eq_account h]
  rfl

/-- In a class that builds, the methods that are no fixtures are well formed. -/
theorem forall_mem_members (h : c.specification settings = .ok spec) :
    ∀ m ∈ c.methods.filter (·.IsMember), m.IsMember ∧ m.WellFormed := by
  have hw : c.WellFormed settings := exists_specification_iff.mp ⟨spec, h⟩
  intro m hm
  obtain ⟨hmem, hm⟩ := List.mem_filter.mp hm
  rw [decide_eq_true_iff] at hm
  exact ⟨hm, hw.methods m hmem hm.1⟩

/-- In a class that builds, every member stands as it is declared. -/
theorem forall₂_declaredAs_methods (h : c.specification settings = .ok spec) :
    List.Forall₂ MethodDecl.DeclaredAs (c.methods.filter (·.IsMember)) spec.methods := by
  rw [methods_eq_numbered h]
  exact MethodDecl.forall₂_declaredAs_numbered (forall_mem_members h) 0

/-- In a class that builds, every member is a method that the user wrote. -/
theorem exists_of_mem_methods (h : c.specification settings = .ok spec) {d : Member}
    (hd : d ∈ spec.methods) :
    ∃ m ∈ c.methods, m.IsMember ∧ m.DeclaredAs d ∧ ∃ k < c.methods.length, d = m.asMember k := by
  rw [methods_eq_numbered h] at hd
  obtain ⟨m, hmem, k, rfl, hk⟩ := MethodDecl.exists_of_mem_numbered hd
  obtain ⟨hm, hw⟩ := forall_mem_members h m hmem
  rw [Nat.zero_add] at hk
  refine ⟨m, List.mem_of_mem_filter hmem, hm, MethodDecl.declaredAs_asMember hm hw k, k, ?_, rfl⟩
  exact Nat.lt_of_lt_of_le hk (List.length_filter_le _ _)

/-- In a class that builds, the last fixture of a role stands in its place. -/
theorem get?_fixtures_eq (h : c.specification settings = .ok spec) (r : Role) :
    spec.fixtures.get? r = MethodDecl.lastFixture? c.methods r := by
  rw [specification_eq_account h]
  cases r <;> rfl

/-- A specification tells every member of a class once and in order. -/
structure AccountedFor (c : ClassDecl) (settings : Settings) (spec : Specification) : Prop where
  /-- The data fields are numbered in the order of their declarations. -/
  fields : spec.fields =
    (c.fields.filter (·.IsData settings c)).mapIdx fun i f => f.asField settings c i
  /-- The methods that the user wrote and that are no fixtures stand in their order. -/
  members : List.Forall₂ MethodDecl.DeclaredAs (c.methods.filter (·.IsMember)) spec.methods
  /-- The features among them are numbered on their own. -/
  ordinals : spec.features.map Member.ordinal? =
    (List.range spec.features.length).map fun j : Nat => some (j : Int)
  /-- In the place of a role stands the method of its name, if there is one. -/
  fixtures (r : Role) (fixture : Fixture) : spec.fixtures.get? r = some fixture ↔
    ∃ m ∈ c.methods, m.IsFixture r ∧ fixture = m.asFixture r
  /-- No method that the user wrote is left out or told twice. -/
  total : spec.methods.length + spec.fixtureMethods.length = c.methods.countP (!·.isSynthetic)

/-- A class with members of every kind. -/
def stackSpec : ClassDecl where
  name := "StackSpec"
  fields :=
    [{ name := "$transient" }, { name := "stack" }, { name := "count", isStatic := true },
      { name := "log", isStatic := true, annotations := ["spock.lang.Shared"] }]
  properties := [{ name := "log" }]
  methods :=
    [{ name := "StackSpec", isSynthetic := true, isConstructor := true },
      { name := "pushing", statements := [{ label := "when" }, { label := "then" }] },
      { name := "setup", statements := [{ literal := "a fresh stack" }, {}] },
      { name := "fill", isStatic := true, statements := [{}] },
      { name := "popping", statements := [{}, { label := "expect", literal := "empty" }] }]

end ClassDecl

end Scenario
