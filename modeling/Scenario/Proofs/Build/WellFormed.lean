import Scenario.Proofs.Block.Language
import Scenario.Proofs.Build.Fields
import Scenario.Proofs.Build.Visit

/-! # Which classes build

A class is well formed when its methods are, each on its own, and its fixtures are declared once
where that is asked for. `ClassDecl.WellFormed` says so without the cascade of the classification,
the pass of the assembly or the state of the build.

* `BuildState.failure_visitMethod_eq_none_iff`: when one visit goes well.
* `BuildState.failure_visitMethods_eq_none_iff`: when all do. The fixtures placed so far and those
  to come are counted together, which is what the visits keep.
* `ClassDecl.builds_iff_wellFormed`: a class builds exactly when it is well formed. -/

namespace Scenario

namespace MethodDecl

variable {m : MethodDecl} {r : Role}

/-- What is asked of a method that the user wrote. -/
structure WellFormed (m : MethodDecl) : Prop where
  not_constructor : m.isConstructor = false
  /-- A name that differs from that of a role only in capitals is taken for a slip. -/
  spelled : ∀ r : Role, Text.lowerCase m.name = Text.lowerCase r.name → m.name = r.name
  /-- Neither fixtures nor features are static. -/
  static : m.isStatic = true → ¬m.HasFixtureName ∧ m.labels = []
  /-- The labels of a feature are a word of the language of bodies. -/
  labels_mem : m.labels ≠ [] → ¬m.HasFixtureName → m.labels ∈ bodyLabels.matches'

theorem WellFormed.of_fixture (hc : m.isConstructor = false) (hst : m.isStatic = false)
    (hn : m.name = r.name) : m.WellFormed where
  not_constructor := hc
  spelled r' h := by
    rw [hn] at h
    rw [hn, Role.lowerCase_name_injective h]
  static h := absurd (hst.symm.trans h) Bool.false_ne_true
  labels_mem _ h := absurd ⟨r, hn⟩ h

/-- A method that resembles no fixture is well formed when its labels are in order. -/
theorem WellFormed.of_not_resembles (hc : m.isConstructor = false) (hn : ¬m.ResemblesFixture)
    (hst : m.isStatic = true → m.labels = [])
    (hl : m.labels ≠ [] → m.labels ∈ bodyLabels.matches') : m.WellFormed where
  not_constructor := hc
  spelled r h := absurd ⟨r, h.symm⟩ hn
  static h := ⟨fun hname => hn hname.resemblesFixture, hst h⟩
  labels_mem h _ := hl h

/-- A method that is refused was written by the user and is not well formed. -/
theorem not_wellFormed_of_classify_eq_error {refusal : Refusal}
    (h : m.classify = .error refusal) : m.isSynthetic = false ∧ ¬m.WellFormed := by
  cases classify_eq_iff.mp h with
  | constructor hs hc => exact ⟨hs, fun hw => by rw [hw.not_constructor] at hc; cases hc⟩
  | misspelled r hs hc hr hn => exact ⟨hs, fun hw => hn (hw.spelled r hr.symm)⟩
  | staticFixture r hs hc hn hst => exact ⟨hs, fun hw => (hw.static hst).1 ⟨r, hn⟩⟩
  | staticFeature hs hc hn hl hst => exact ⟨hs, fun hw => hl (hw.static hst).2⟩

end MethodDecl

namespace BuildState

variable {settings : Settings} {owner : ClassDecl} {m : MethodDecl} {ms : List MethodDecl}
  {s : BuildState} {r : Role}

/-! ## One visit -/

/-- A visit goes well when its method is none of the user's, or is well formed and, where fixtures
are declared once, finds its place free. -/
theorem failure_visitMethod_eq_none_iff :
    (s.visitMethod settings owner m).failure = none ↔
      (m.isSynthetic = false → m.WellFormed) ∧
        (settings.duplicates = .error → ∀ r, m.IsFixture r → s.fixtures.get? r = none) := by
  have hv := s.methodVisit settings owner m
  generalize s.visitMethod settings owner m = v at hv ⊢
  cases hv with
  | ignored h =>
      cases MethodDecl.classify_eq_iff.mp h with
      | ignored hs =>
          refine iff_of_true rfl ⟨fun hs' => ?_, fun _ r hr => ?_⟩
          · exact absurd (hs'.symm.trans hs) Bool.false_ne_true
          · exact absurd hr (MethodDecl.not_isFixture_of_synthetic hs)
  | refused refusal h =>
      obtain ⟨hs, hw⟩ := MethodDecl.not_wellFormed_of_classify_eq_error h
      exact iff_of_false nofun fun hand => hw (hand.1 hs)
  | placed r h hfree =>
      cases MethodDecl.classify_eq_iff.mp h with
      | fixture r hs hc hn hst =>
          refine iff_of_true rfl ⟨fun _ => .of_fixture hc hst hn, fun _ r' hr' => ?_⟩
          obtain rfl := hr'.unique ⟨hs, hn⟩
          exact hfree
  | replaced r old h hold hp =>
      cases MethodDecl.classify_eq_iff.mp h with
      | fixture r hs hc hn hst =>
          refine iff_of_true rfl ⟨fun _ => .of_fixture hc hst hn, fun hp' => ?_⟩
          rw [hp] at hp'
          cases hp'
  | duplicate r old h hold hp =>
      cases MethodDecl.classify_eq_iff.mp h with
      | fixture r hs hc hn hst =>
          refine iff_of_false nofun fun hand => ?_
          have hfree := hand.2 hp r ⟨hs, hn⟩
          rw [hold] at hfree
          cases hfree
  | feature blocks h hb =>
      cases MethodDecl.classify_eq_iff.mp h with
      | feature hs hc hn hl hst =>
          have hmem := m.exists_assemble_eq_ok_iff_labels_mem.mp
            ⟨blocks, ClassDecl.assemble_eq_ok_iff.mp hb⟩
          have hw : m.WellFormed := .of_not_resembles hc hn
            (fun hst' => absurd (hst.symm.trans hst') Bool.false_ne_true) fun _ => hmem
          exact iff_of_true rfl ⟨fun _ => hw, fun _ r hr => absurd hr.resemblesFixture hn⟩
  | unassembled e h he =>
      cases MethodDecl.classify_eq_iff.mp h with
      | feature hs hc hn hl hst =>
          refine iff_of_false nofun fun hand => ?_
          have hmem := (hand.1 hs).labels_mem hl (MethodDecl.isMember_of_not_resembles hs hn).2
          obtain ⟨blocks, hb⟩ := m.exists_assemble_eq_ok_iff_labels_mem.mpr hmem
          rw [ClassDecl.assemble_eq_ok_iff.mpr hb] at he
          cases he
  | helper h =>
      cases MethodDecl.classify_eq_iff.mp h with
      | helper hs hc hn hl =>
          have hw : m.WellFormed := .of_not_resembles hc hn (fun _ => hl) fun hl' => absurd hl hl'
          exact iff_of_true rfl ⟨fun _ => hw, fun _ r hr => absurd hr.resemblesFixture hn⟩

/-! ## All visits -/

/-- Where a fixture stands after a method has been added. -/
theorem get?_fixtures_after (s : BuildState) (m : MethodDecl) (r : Role) :
    (s.after m).fixtures.get? r =
      if m.IsFixture r then some (m.asFixture r) else s.fixtures.get? r := by
  cases m.standing with
  | synthetic hs => rw [s.after_of_synthetic hs, if_neg (MethodDecl.not_isFixture_of_synthetic hs)]
  | fixture r' hr' =>
      rw [s.after_of_fixture hr']
      by_cases hr : m.IsFixture r
      · obtain rfl := hr.unique hr'
        rw [if_pos hr]
        exact s.fixtures.get?_put_self r _
      · have hne : r ≠ r' := by
          rintro rfl
          exact hr hr'
        rw [if_neg hr]
        exact s.fixtures.get?_put_of_ne hne _
  | member hm => rw [s.after_of_member hm, if_neg hm.not_isFixture]

/-- How often a role is filled: by what stands in its place, and by methods still to come. -/
def fixtureCount (s : BuildState) (ms : List MethodDecl) (r : Role) : Nat :=
  (s.fixtures.get? r).isSome.toNat + ms.countP (·.IsFixture r)

/-- A role is filled at most once when the next method finds its place free and the role is filled
at most once from the state after it. -/
theorem fixtureCount_cons_le_one_iff :
    s.fixtureCount (m :: ms) r ≤ 1 ↔
      (m.IsFixture r → s.fixtures.get? r = none) ∧ (s.after m).fixtureCount ms r ≤ 1 := by
  unfold fixtureCount
  rw [get?_fixtures_after, List.countP_cons]
  by_cases hr : m.IsFixture r
  · cases s.fixtures.get? r with
    | none =>
        simp only [hr, if_true, Option.isSome_none, Option.isSome_some, Bool.toNat_false,
          Bool.toNat_true, decide_true, implies_true, true_and]
        omega
    | some old => simp [hr]
  · simp [hr]

/-- All visits go well when the methods are well formed and, where fixtures are declared once, no
role is filled twice. -/
theorem failure_visitMethods_eq_none_iff :
    (s.visitMethods settings owner ms).failure = none ↔
      (∀ m ∈ ms, m.isSynthetic = false → m.WellFormed) ∧
        (settings.duplicates = .error → ∀ r, s.fixtureCount ms r ≤ 1) := by
  -- What one visit leaves in the places of the roles is counted as filled for those that follow.
  induction ms generalizing s with
  | nil =>
      refine iff_of_true rfl ⟨fun m hm => absurd hm List.not_mem_nil, fun _ r => ?_⟩
      exact Bool.toNat_le _
  | cons m ms ih =>
      rw [failure_visitMethods_cons_eq_none_iff, failure_visitMethod_eq_none_iff, ih,
        List.forall_mem_cons]
      simp only [fixtureCount_cons_le_one_iff, forall_and]
      tauto

end BuildState

namespace ClassDecl

variable {c c' : ClassDecl} {settings : Settings}

/-- A class is well formed when the methods that the user wrote are and, where fixtures are
declared once, no two of them have the name of the same role. -/
structure WellFormed (c : ClassDecl) (settings : Settings) : Prop where
  methods : ∀ m ∈ c.methods, m.isSynthetic = false → m.WellFormed
  fixtures : settings.duplicates = .error → ∀ r : Role, c.methods.countP (·.IsFixture r) ≤ 1

/-- A class builds exactly when it is well formed. -/
theorem exists_specification_iff :
    (∃ spec, c.specification settings = .ok spec) ↔ c.WellFormed settings := by
  have hcount : ∀ r, (c.fieldsVisited settings).fixtureCount c.methods r =
      c.methods.countP (·.IsFixture r) := by
    intro r
    rw [fieldsVisited, BuildState.visitFields_fst, BuildState.fixtureCount]
    cases r <;> exact Nat.zero_add _
  have hvisits :
      ((c.fieldsVisited settings).visitMethods settings c c.methods).failure = none ↔ _ :=
    BuildState.failure_visitMethods_eq_none_iff
  simp only [hcount] at hvisits
  constructor
  · rintro ⟨spec, h⟩
    obtain ⟨hmethods, hfixtures⟩ := hvisits.mp (specification_eq_ok_iff.mp h).1
    exact ⟨hmethods, hfixtures⟩
  · rintro ⟨hmethods, hfixtures⟩
    exact ⟨_, specification_eq_ok_iff.mpr ⟨hvisits.mpr ⟨hmethods, hfixtures⟩, rfl⟩⟩

/-! ## What has a say in it -/

/-- What of a method has a say in whether its class builds. -/
structure Heading where
  name : String
  isStatic : Bool
  isConstructor : Bool
  labels : List String

/-- The heading of a method. -/
def headingOf (m : MethodDecl) : Heading := ⟨m.name, m.isStatic, m.isConstructor, m.labels⟩

/-- The headings of the methods that the user wrote. -/
def headings (c : ClassDecl) : List Heading :=
  (c.methods.filter (!·.isSynthetic)).map headingOf

/-- Methods with one heading are well formed together. -/
theorem wellFormed_of_headingOf_eq {m m' : MethodDecl} (h : headingOf m' = headingOf m)
    (hw : m.WellFormed) : m'.WellFormed := by
  obtain ⟨hn, hst, hc, hl⟩ := Heading.mk.inj h
  have hname : m'.HasFixtureName ↔ m.HasFixtureName := by
    unfold MethodDecl.HasFixtureName
    rw [hn]
  constructor
  · rw [hc]
    exact hw.not_constructor
  · rw [hn]
    exact hw.spelled
  · rw [hst, hname, hl]
    exact hw.static
  · rw [hname, hl]
    exact hw.labels_mem

/-- Fixtures can be counted by their headings. -/
theorem countP_isFixture_eq (c : ClassDecl) (r : Role) :
    c.methods.countP (·.IsFixture r) = c.headings.countP (·.name == r.name) := by
  rw [headings, List.countP_map, List.countP_filter]
  refine List.countP_congr fun m _ => ?_
  rw [decide_eq_true_iff, MethodDecl.IsFixture]
  simp [headingOf, and_comm]

/-- Classes with the same headings are well formed together. -/
theorem wellFormed_of_headings_eq (h : c'.headings = c.headings) (hw : c.WellFormed settings) :
    c'.WellFormed settings := by
  constructor
  · intro m' hm' hs'
    have hmem : headingOf m' ∈ c'.headings :=
      List.mem_map_of_mem (List.mem_filter.mpr ⟨hm', by rw [hs']; rfl⟩)
    rw [h] at hmem
    obtain ⟨m, hm, hheading⟩ := List.mem_map.mp hmem
    obtain ⟨hm, hs⟩ := List.mem_filter.mp hm
    exact wellFormed_of_headingOf_eq hheading.symm (hw.methods m hm (Bool.not_eq_true' _ ▸ hs))
  · intro hp r
    rw [countP_isFixture_eq, h, ← countP_isFixture_eq]
    exact hw.fixtures hp r

end ClassDecl

end Scenario
