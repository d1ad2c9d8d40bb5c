import Scenario.Proofs.Build.FirstFailure
import Scenario.Proofs.Build.Members
import Scenario.Proofs.Build.Replacement

/-! # Overwriting and refusing repeated fixtures

A class may declare a fixture again, and the settings say what comes of it: the class is refused, or
the later declaration takes the place of the earlier one, with a warning. The two go together.

* `ClassDecl.account_withoutReplaced`: what is told of a class stays when the fixtures whose places
  others take are left out.
* `BuildState.announces_visitMethods`: visits that go well warn of every replacement, in order.
* `BuildState.MethodVisit.eq_duplicate_of_wellFormed`: of a well formed method only a repetition is
  refused.
* `ClassDecl.overwriting_refines_refusing` puts this together. -/

namespace Scenario

/-- The same settings with a policy for repeated fixtures. -/
def Settings.under (settings : Settings) (policy : DuplicatePolicy) : Settings :=
  { settings with duplicates := policy }

/-- The warnings among events. -/
def warnings (events : List Event) : List Event := events.filter (·.level = .warning)

theorem warnings_append (events later : List Event) :
    warnings (events ++ later) = warnings events ++ warnings later :=
  List.filter_append _ _

/-- A warning tells the class, the role, and the place of the declaration that takes the place of
another one. -/
def Event.Announces (owner : ClassDecl) (p : Replacement) (ev : Event) : Prop :=
  ∃ r, p.new.IsFixture r ∧ ev = .fixtureReplaced owner.name r p.new.position

namespace BuildState

variable {settings : Settings} {owner : ClassDecl} {m : MethodDecl} {ms before : List MethodDecl}
  {s : BuildState} {v : Visit}

/-! ## Warnings of a build -/

/-- The places of roles are filled by the methods `before`. -/
def FilledBy (s : BuildState) (before : List MethodDecl) : Prop :=
  ∀ r : Role, (s.fixtures.get? r).isSome = true ↔ ∃ m ∈ before, m.IsFixture r

/-- One more method fills the places that it fills. -/
theorem FilledBy.after (h : s.FilledBy before) (m : MethodDecl) :
    (s.after m).FilledBy (m :: before) := by
  intro r
  rw [get?_fixtures_after, List.exists_mem_cons_iff]
  by_cases hr : m.IsFixture r
  · simp [hr]
  · simp [hr, h r]

/-- Methods added one after another fill the places that they fill. -/
theorem FilledBy.foldl_after (h : s.FilledBy before) (ms : List MethodDecl) :
    (ms.foldl BuildState.after s).FilledBy (ms.reverse ++ before) := by
  induction ms generalizing s before with
  | nil => exact h
  | cons m ms ih =>
      rw [List.reverse_cons, List.append_assoc]
      exact ih (h.after m)

/-- A visit that goes well warns when its method takes the place of one before. -/
theorem MethodVisit.announces (hv : MethodVisit settings owner m s v) (h : v.failure = none)
    (hfilled : s.FilledBy before) :
    List.Forall₂ (Event.Announces owner)
      ((before.find? (·.SharesRole m)).map (Replacement.mk · m)).toList (warnings v.events) := by
  have alone : (∀ m' ∈ before, ¬m'.SharesRole m) →
      before.find? (·.SharesRole m) = none := by
    intro hno
    simpa using hno
  cases hv with
  | refused refusal h' | duplicate r old h' hold hp | unassembled e h' he => cases h
  | ignored h' =>
      cases MethodDecl.classify_eq_iff.mp h' with
      | ignored hs =>
          rw [alone]
          · exact .nil
          · rintro m' hm' ⟨r, -, hr⟩
            exact MethodDecl.not_isFixture_of_synthetic hs hr
  | placed r h' hfree =>
      cases MethodDecl.classify_eq_iff.mp h' with
      | fixture r hs hc hn hst =>
          have hr : m.IsFixture r := ⟨hs, hn⟩
          rw [alone]
          · exact .nil
          · intro m' hm' hshares
            have hsome := (hfilled r).mpr ⟨m', hm', hr.sharesRole_iff.mp hshares⟩
            rw [hfree] at hsome
            cases hsome
  | replaced r old h' hold hp =>
      cases MethodDecl.classify_eq_iff.mp h' with
      | fixture r hs hc hn hst =>
          have hr : m.IsFixture r := ⟨hs, hn⟩
          obtain ⟨m', hm', hr'⟩ := (hfilled r).mp (Option.isSome_of_eq_some hold)
          cases hfind : before.find? (·.SharesRole m) with
          | none =>
              have hno : ∀ y ∈ before, ¬y.SharesRole m := by simpa using hfind
              exact absurd (hr.sharesRole_iff.mpr hr') (hno m' hm')
          | some y => exact .cons ⟨r, hr, rfl⟩ .nil
  | feature blocks h' hb =>
      cases MethodDecl.classify_eq_iff.mp h' with
      | feature hs hc hn hl hst =>
          rw [alone]
          · exact .nil
          · rintro m' hm' ⟨r, -, hr⟩
            exact hn hr.resemblesFixture
  | helper h' =>
      cases MethodDecl.classify_eq_iff.mp h' with
      | helper hs hc hn hl =>
          rw [alone]
          · exact .nil
          · rintro m' hm' ⟨r, -, hr⟩
            exact hn hr.resemblesFixture

/-- Visits that go well warn of every replacement, in the order of the declarations. -/
theorem announces_visitMethods (h : (s.visitMethods settings owner ms).failure = none)
    (hfilled : s.FilledBy before) :
    List.Forall₂ (Event.Announces owner) (MethodDecl.replacements before ms)
      (warnings (s.visitMethods settings owner ms).events) := by
  -- What has been visited stands in front, so that the methods before grow with every visit.
  induction ms generalizing s before with
  | nil => exact .nil
  | cons m ms ih =>
      obtain ⟨hm, hms⟩ := failure_visitMethods_cons_eq_none_iff.mp h
      have hhead := (s.methodVisit settings owner m).announces hm hfilled
      have hrest := ih hms (hfilled.after m)
      rw [visitMethods_cons_of_ok hm, MethodDecl.replacements]
      dsimp only
      rw [warnings_append]
      exact List.rel_append hhead hrest

/-- Fields give no warnings. -/
theorem warnings_visitFields (fs : List FieldDecl) (s : BuildState) :
    warnings (s.visitFields settings owner fs).2 = [] := by
  induction fs generalizing s with
  | nil => rfl
  | cons f fs ih =>
      rw [visitFields]
      dsimp only
      rw [warnings_append, ih, List.append_nil, visitField]
      cases f.dataField? settings owner <;> rfl

/-! ## Repetitions that are refused -/

/-- A visit of a well formed method fails only where its place is taken. -/
theorem MethodVisit.eq_duplicate_of_wellFormed {e : ParseError}
    (hv : MethodVisit settings owner m s v) (he : v.failure = some e)
    (hw : m.isSynthetic = false → m.WellFormed) :
    ∃ r, m.IsFixture r ∧ (s.fixtures.get? r).isSome = true ∧
      e = owner.errorAt m (.duplicateFixture r) := by
  cases hv with
  | ignored h | placed r h hfree | replaced r old h hold hp | feature blocks h hb | helper h =>
      cases he
  | refused refusal h =>
      obtain ⟨hs, hno⟩ := MethodDecl.not_wellFormed_of_classify_eq_error h
      exact absurd (hw hs) hno
  | duplicate r old h hold hp =>
      cases he
      cases MethodDecl.classify_eq_iff.mp h with
      | fixture r hs hc hn hst => exact ⟨r, ⟨hs, hn⟩, Option.isSome_of_eq_some hold, rfl⟩
  | unassembled e' h hassemble =>
      cases MethodDecl.classify_eq_iff.mp h with
      | feature hs hc hn hl hst =>
          have hmem := (hw hs).labels_mem hl (MethodDecl.isMember_of_not_resembles hs hn).2
          obtain ⟨blocks, hb⟩ := m.exists_assemble_eq_ok_iff_labels_mem.mpr hmem
          rw [ClassDecl.assemble_eq_ok_iff.mpr hb] at hassemble
          cases hassemble

end BuildState

namespace ClassDecl

variable {c : ClassDecl} {settings : Settings} {spec : Specification} {e : ParseError}

/-- The class without the fixtures whose places later ones take. -/
def withoutReplaced (c : ClassDecl) : ClassDecl :=
  { c with methods := MethodDecl.unreplaced c.methods }

/-- The warnings of the build of a class. -/
def buildWarnings (c : ClassDecl) (settings : Settings) : List Event :=
  warnings (c.build settings).1

/-- What is told of a class stays when replaced fixtures are left out, whatever the policies. -/
theorem account_withoutReplaced (c : ClassDecl) (settings : Settings)
    (policy other : DuplicatePolicy) :
    c.withoutReplaced.account (settings.under policy) = c.account (settings.under other) := by
  have hfixture : ∀ r, MethodDecl.lastFixture? (MethodDecl.unreplaced c.methods) r =
      MethodDecl.lastFixture? c.methods r := by
    intro r
    unfold MethodDecl.lastFixture?
    rw [MethodDecl.filter_isFixture_unreplaced]
    cases (c.methods.filter (·.IsFixture r)).getLast? <;> rfl
  unfold account withoutReplaced
  simp only [MethodDecl.filter_isMember_unreplaced, hfixture]
  rfl

/-- Left without replaced fixtures, a class that builds where they are overwritten builds where they
are refused. -/
theorem wellFormed_withoutReplaced (h : c.WellFormed (settings.under .overwrite)) :
    c.withoutReplaced.WellFormed (settings.under .error) where
  methods m hm hs := h.methods m ((MethodDecl.unreplaced_sublist c.methods).subset hm) hs
  fixtures _ r := MethodDecl.countP_isFixture_unreplaced_le c.methods r

/-- Where repeated fixtures are overwritten, nothing is asked of their number. -/
theorem WellFormed.overwrite (h : c.WellFormed settings) :
    c.WellFormed (settings.under .overwrite) where
  methods := h.methods
  fixtures hp := nomatch hp

/-- The warnings of a build are those of the visits of its methods. -/
theorem buildWarnings_eq (c : ClassDecl) (settings : Settings) :
    c.buildWarnings settings =
      warnings ((c.fieldsVisited settings).visitMethods settings c c.methods).events := by
  have hfields : warnings (BuildState.visitFields settings c c.fields {}).2 = [] :=
    BuildState.warnings_visitFields c.fields {}
  unfold buildWarnings build fieldsVisited
  dsimp only
  cases (BuildState.visitMethods settings c c.methods _).failure with
  | some e =>
      dsimp only
      rw [← List.singleton_append, warnings_append, warnings_append, hfields]
      rfl
  | none =>
      dsimp only
      rw [← List.singleton_append, warnings_append, warnings_append, warnings_append, hfields]
      exact List.append_nil _

/-- Before its methods are visited no fixture of a class has its place. -/
theorem filledBy_fieldsVisited (c : ClassDecl) (settings : Settings) :
    (c.fieldsVisited settings).FilledBy [] := by
  intro r
  rw [fixtures_fieldsVisited]
  cases r <;> exact iff_of_false Bool.false_ne_true fun ⟨_, hm, _⟩ => List.not_mem_nil hm

/-- A class that builds warns of its replacements in the order of the declarations that take the
places, and every replaced fixture is replaced once. -/
structure WarnsOfReplacements (c : ClassDecl) (settings : Settings)
    (replacements : List Replacement) : Prop where
  /-- In every replacement the new fixture is the next one after the old one with its role. -/
  standing : ∀ p ∈ replacements, p.In c.methods
  olds : (replacements.map (·.old)).Perm (MethodDecl.replaced c.methods)
  /-- What is not replaced is left. -/
  left : (replacements.map (·.old) ++ c.withoutReplaced.methods).Perm c.methods
  news : (replacements.map (·.new)).Sublist c.methods
  announced : List.Forall₂ (Event.Announces c) replacements (c.buildWarnings settings)

theorem warnsOfReplacements (h : c.specification settings = .ok spec) :
    c.WarnsOfReplacements settings (MethodDecl.replacements [] c.methods) where
  standing _ hp := MethodDecl.in_of_mem_replacements hp
  olds := (MethodDecl.perm_replaced [] c.methods).symm
  left := ((MethodDecl.perm_replaced [] c.methods).symm.append_right _).trans
    (MethodDecl.perm_replaced_append_unreplaced c.methods)
  news := MethodDecl.map_new_replacements_sublist [] c.methods
  announced := by
    rw [buildWarnings_eq]
    exact BuildState.announces_visitMethods (specification_eq_ok_iff.mp h).1
      (c.filledBy_fieldsVisited settings)

/-- A declaration is the first of its class that repeats the role of one before it. -/
def FirstRepeats (c : ClassDecl) (m : MethodDecl) (r : Role) : Prop :=
  ∃ before after, c.methods = before ++ m :: after ∧ m.IsFixture r ∧
    (∃ m' ∈ before, m'.IsFixture r) ∧ ∀ r' : Role, before.countP (·.IsFixture r') ≤ 1

/-- A class that builds where repeated fixtures are overwritten is refused elsewhere at the first
repetition only. -/
theorem exists_firstRepeats (hw : c.WellFormed (settings.under .overwrite))
    (h : c.specification (settings.under .error) = .error e) :
    ∃ m r, c.FirstRepeats m r ∧ e = c.errorAt m (.duplicateFixture r) := by
  obtain ⟨before, m, after, hms, hbefore, hm⟩ :=
    BuildState.exists_first_failure (specification_eq_error_iff.mp h)
  have hmem : m ∈ c.methods := hms ▸ List.mem_append_right before List.mem_cons_self
  obtain ⟨r, hr, hsome, he⟩ :=
    (BuildState.methodVisit _ _ m _).eq_duplicate_of_wellFormed hm (hw.methods m hmem)
  refine ⟨m, r, ⟨before, after, hms, hr, ?_, fun r' => ?_⟩, he⟩
  · have hfilled := (c.filledBy_fieldsVisited (settings.under .error)).foldl_after before
    obtain ⟨m', hm', hr'⟩ := (hfilled r).mp hsome
    refine ⟨m', ?_, hr'⟩
    simpa using hm'
  · have hcount := (BuildState.failure_visitMethods_eq_none_iff.mp hbefore).2 rfl r'
    rw [BuildState.fixtureCount, fixtures_fieldsVisited] at hcount
    exact Nat.le_trans (Nat.le_add_left _ _) hcount

/-- A class that declares two fixtures again, with a feature in between. -/
def repeatedSpec : ClassDecl where
  name := "RepeatedSpec"
  methods :=
    [{ name := "setup", position := ⟨2, 5⟩ }, { name := "cleanup", position := ⟨4, 5⟩ },
      { name := "pushing", statements := [{ label := "expect" }] },
      { name := "cleanup", position := ⟨9, 5⟩ }, { name := "setup", position := ⟨11, 5⟩ },
      { name := "setup", position := ⟨13, 5⟩, statements := [{}] }]

end ClassDecl

end Scenario
