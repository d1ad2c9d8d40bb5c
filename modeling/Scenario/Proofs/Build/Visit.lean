import Scenario.Build
import Scenario.Proofs.Classification

/-! # What a visit can do

`BuildState.MethodVisit` lists the ways in which the visit of a method can go, each with its
condition, the state after it, the records made and the error. `BuildState.methodVisit` says that
every visit goes one of these ways; what visits do or leave alone is read off the list.

A visit that does not fail only adds its method: `BuildState.after` is the state with a method
added, so that a run without failures is a fold (`state_visitMethods_of_ok`). -/

namespace Scenario

namespace MethodDecl

/-- A method as the fixture of a role: its body is one block. -/
def asFixture (m : MethodDecl) (r : Role) : Fixture :=
  ⟨r, ⟨m.name, [Block.single m.statements], m.position⟩⟩

/-- A method as a feature with an ordinal and blocks. -/
def asFeature (m : MethodDecl) (ordinal : Nat) (blocks : List Block) : Member :=
  .feature ordinal ⟨m.name, blocks, m.position⟩

/-- A method as a helper: its body is one block. -/
def asHelper (m : MethodDecl) : Member :=
  .helper ⟨m.name, [Block.single m.statements], m.position⟩

/-- A method that is no fixture as a member; the ordinal counts if it is a feature. -/
def asMember (m : MethodDecl) (ordinal : Nat) : Member :=
  if m.labels = [] then m.asHelper else m.asFeature ordinal (m.assemble.toOption.getD [])

theorem asMember_of_no_labels {m : MethodDecl} (hl : m.labels = []) (ordinal : Nat) :
    m.asMember ordinal = m.asHelper := by
  rw [asMember, if_pos hl]

theorem asMember_of_assemble {m : MethodDecl} {blocks : List Block} (hl : m.labels ≠ [])
    (hb : m.assemble = .ok blocks) (ordinal : Nat) :
    m.asMember ordinal = m.asFeature ordinal blocks := by
  rw [asMember, if_neg hl, hb]
  rfl

end MethodDecl

namespace BuildState

variable {settings : Settings} {owner : ClassDecl} {m : MethodDecl} {f : FieldDecl}
  {s : BuildState} {v : Visit}

/-! ## The ways of a visit -/

/-- The visit of a method in a state. -/
inductive MethodVisit (settings : Settings) (owner : ClassDecl) (m : MethodDecl)
    (s : BuildState) : Visit → Prop where
  /-- The method is none of the user. -/
  | ignored (h : m.classify = .ok .ignored) :
    MethodVisit settings owner m s ⟨s, [.method owner.name m.name .ignored], none⟩
  /-- The declaration itself is refused. -/
  | refused (refusal : Refusal) (h : m.classify = .error refusal) :
    MethodVisit settings owner m s ⟨s, [], some (owner.errorAt m refusal)⟩
  /-- A fixture takes a free place. -/
  | placed (r : Role) (h : m.classify = .ok (.fixture r)) (hfree : s.fixtures.get? r = none) :
    MethodVisit settings owner m s
      ⟨{ s with fixtures := s.fixtures.put r (m.asFixture r) },
        [.method owner.name m.name (.fixture r)], none⟩
  /-- A fixture takes the place of another one. -/
  | replaced (r : Role) (old : Fixture) (h : m.classify = .ok (.fixture r))
      (hold : s.fixtures.get? r = some old) (hp : settings.duplicates = .overwrite) :
    MethodVisit settings owner m s
      ⟨{ s with fixtures := s.fixtures.put r (m.asFixture r) },
        [.method owner.name m.name (.fixture r), .fixtureReplaced owner.name r m.position], none⟩
  /-- A fixture finds its place taken. -/
  | duplicate (r : Role) (old : Fixture) (h : m.classify = .ok (.fixture r))
      (hold : s.fixtures.get? r = some old) (hp : settings.duplicates = .error) :
    MethodVisit settings owner m s
      ⟨s, [.method owner.name m.name (.fixture r)],
        some (owner.errorAt m (.duplicateFixture r))⟩
  /-- A feature is added. -/
  | feature (blocks : List Block) (h : m.classify = .ok .feature)
      (hb : owner.assemble m = .ok blocks) :
    MethodVisit settings owner m s
      ⟨{ s with
          featureCount := s.featureCount + 1
          methods := s.methods ++ [m.asFeature s.featureCount blocks] },
        [.method owner.name m.name .feature], none⟩
  /-- A feature cannot be assembled; its ordinal is gone. -/
  | unassembled (e : ParseError) (h : m.classify = .ok .feature)
      (he : owner.assemble m = .error e) :
    MethodVisit settings owner m s
      ⟨{ s with featureCount := s.featureCount + 1 },
        [.method owner.name m.name .feature], some e⟩
  /-- A helper is added. -/
  | helper (h : m.classify = .ok .helper) :
    MethodVisit settings owner m s
      ⟨{ s with methods := s.methods ++ [m.asHelper] },
        [.method owner.name m.name .helper], none⟩

/-- Every visit of a method goes one of the ways. -/
theorem methodVisit (settings : Settings) (owner : ClassDecl) (m : MethodDecl) (s : BuildState) :
    MethodVisit settings owner m s (s.visitMethod settings owner m) := by
  unfold visitMethod
  cases h : m.classify with
  | error refusal => exact .refused refusal h
  | ok verdict =>
      cases verdict with
      | ignored => exact .ignored h
      | fixture r =>
          dsimp only [addFixture]
          cases hold : s.fixtures.get? r with
          | none => exact .placed r h hold
          | some old =>
              cases hp : settings.duplicates with
              | error => exact .duplicate r old h hold hp
              | overwrite => exact .replaced r old h hold hp
      | feature =>
          dsimp only [addFeature]
          cases hb : owner.assemble m with
          | ok blocks => exact .feature blocks h hb
          | error e => exact .unassembled e h hb
      | helper => exact .helper h

/-! ## What a visit leaves alone -/

/-- A method changes nothing about fields. -/
theorem MethodVisit.fields_eq (h : MethodVisit settings owner m s v) :
    v.state.fields = s.fields ∧ v.state.fieldCount = s.fieldCount := by
  cases h <;> exact ⟨rfl, rfl⟩

/-! ## Visits that do not fail -/

/-- The state with a method added, whether or not it may be added. -/
def after (s : BuildState) (m : MethodDecl) : BuildState :=
  if m.isSynthetic then s
  else match Role.ofName? m.name with
    | some r => { s with fixtures := s.fixtures.put r (m.asFixture r) }
    | none =>
      { s with
        featureCount := s.featureCount + if m.labels = [] then 0 else 1
        methods := s.methods ++ [m.asMember s.featureCount] }

/-- Methods that a compiler made add nothing. -/
theorem after_of_synthetic (s : BuildState) (hs : m.isSynthetic = true) : s.after m = s := by
  rw [after, if_pos hs]

/-- A fixture takes the place of its role. -/
theorem after_of_fixture (s : BuildState) {r : Role} (hr : m.IsFixture r) :
    s.after m = { s with fixtures := s.fixtures.put r (m.asFixture r) } := by
  rw [after, if_neg (Bool.eq_false_iff.mp hr.1), Role.ofName?_eq_some_iff.mpr hr.2]

/-- Any other method of the user becomes a member. -/
theorem after_of_member (s : BuildState) (hm : m.IsMember) :
    s.after m =
      { s with
        featureCount := s.featureCount + if m.labels = [] then 0 else 1
        methods := s.methods ++ [m.asMember s.featureCount] } := by
  rw [after, if_neg (Bool.eq_false_iff.mp hm.1), MethodDecl.ofName?_eq_none_iff.mpr hm.2]

/-- A visit that does not fail adds its method and does nothing else. -/
theorem MethodVisit.state_eq_after (h : MethodVisit settings owner m s v)
    (hv : v.failure = none) : v.state = s.after m := by
  cases h with
  | ignored h =>
      cases MethodDecl.classify_eq_iff.mp h with
      | ignored hs => exact (s.after_of_synthetic hs).symm
  | refused refusal h => cases hv
  | placed r h hfree | replaced r old h hold hp =>
      cases MethodDecl.classify_eq_iff.mp h with
      | fixture r hs hc hn hst => exact (s.after_of_fixture ⟨hs, hn⟩).symm
  | duplicate r old h hold hp => cases hv
  | feature blocks h hb =>
      cases MethodDecl.classify_eq_iff.mp h with
      | feature hs hc hn hl hst =>
          rw [s.after_of_member (MethodDecl.isMember_of_not_resembles hs hn), if_neg hl,
            MethodDecl.asMember_of_assemble hl (ClassDecl.assemble_eq_ok_iff.mp hb)]
  | unassembled e h he => cases hv
  | helper h =>
      cases MethodDecl.classify_eq_iff.mp h with
      | helper hs hc hn hl =>
          rw [s.after_of_member (MethodDecl.isMember_of_not_resembles hs hn), if_pos hl,
            MethodDecl.asMember_of_no_labels hl]
          rfl

/-! ## Many visits -/

variable {ms : List MethodDecl}

/-- A failure ends the visits. -/
theorem visitMethods_cons_of_failure {e : ParseError}
    (h : (s.visitMethod settings owner m).failure = some e) :
    s.visitMethods settings owner (m :: ms) = s.visitMethod settings owner m := by
  simp only [visitMethods, h]

/-- After a visit without a failure the others follow. -/
theorem visitMethods_cons_of_ok (h : (s.visitMethod settings owner m).failure = none) :
    s.visitMethods settings owner (m :: ms) =
      let later := (s.after m).visitMethods settings owner ms
      { later with events := (s.visitMethod settings owner m).events ++ later.events } := by
  simp only [visitMethods, h, (s.methodVisit settings owner m).state_eq_after h]

/-- The visits of methods fail as the first does, or else as the others do from the state after
it. -/
theorem failure_visitMethods_cons :
    (s.visitMethods settings owner (m :: ms)).failure =
      (s.visitMethod settings owner m).failure.or
        ((s.after m).visitMethods settings owner ms).failure := by
  cases h : (s.visitMethod settings owner m).failure with
  | some e => rw [visitMethods_cons_of_failure h, h, Option.some_or]
  | none => rw [visitMethods_cons_of_ok h, Option.none_or]

/-- Visits go without a failure when the first does, and the others do from the state after it. -/
theorem failure_visitMethods_cons_eq_none_iff :
    (s.visitMethods settings owner (m :: ms)).failure = none ↔
      (s.visitMethod settings owner m).failure = none ∧
        ((s.after m).visitMethods settings owner ms).failure = none := by
  rw [failure_visitMethods_cons, Option.or_eq_none_iff]

/-- Methods that are all visited without a failure are added one after another. -/
theorem state_visitMethods_of_ok (h : (s.visitMethods settings owner ms).failure = none) :
    (s.visitMethods settings owner ms).state = ms.foldl after s := by
  induction ms generalizing s with
  | nil => rfl
  | cons m ms ih =>
      obtain ⟨hm, hms⟩ := failure_visitMethods_cons_eq_none_iff.mp h
      rw [visitMethods_cons_of_ok hm, List.foldl_cons, ← ih hms]

end BuildState

namespace ClassDecl

variable {c : ClassDecl} {settings : Settings}

/-- The state in which the methods of a class are visited. -/
def fieldsVisited (c : ClassDecl) (settings : Settings) : BuildState :=
  (BuildState.visitFields settings c c.fields {}).1

/-- A class builds when the visits of its methods go well, and its specification is what has been
collected then. -/
theorem specification_eq_ok_iff {spec : Specification} :
    c.specification settings = .ok spec ↔
      ((c.fieldsVisited settings).visitMethods settings c c.methods).failure = none ∧
        (c.methods.foldl BuildState.after (c.fieldsVisited settings)).specification c = spec := by
  unfold specification build fieldsVisited
  obtain ⟨s, events⟩ := BuildState.visitFields settings c c.fields {}
  dsimp only
  cases h : (s.visitMethods settings c c.methods).failure with
  | some e => exact iff_of_false nofun nofun
  | none =>
      dsimp only
      rw [← BuildState.state_visitMethods_of_ok h, eq_self_iff_true, true_and, Except.ok.injEq]

/-- A class is refused with the error of the visit that fails. -/
theorem specification_eq_error_iff {e : ParseError} :
    c.specification settings = .error e ↔
      ((c.fieldsVisited settings).visitMethods settings c c.methods).failure = some e := by
  unfold specification build fieldsVisited
  obtain ⟨s, events⟩ := BuildState.visitFields settings c c.fields {}
  dsimp only
  cases h : (s.visitMethods settings c c.methods).failure with
  | some e' => rw [Except.error.injEq, Option.some.injEq]
  | none => exact iff_of_false nofun nofun

end ClassDecl

end Scenario
