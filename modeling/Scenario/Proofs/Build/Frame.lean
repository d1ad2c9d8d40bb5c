import Scenario.Proofs.Build.Session

/-! # What a visit leaves alone

The visit of a field is no business of methods, and the visit of a method none of fields
(`BuildState.sameMethods_visitField`, `BuildState.sameFields_visitMethod`). A visit that fails
leaves everything as it was but for the ordinal that is lost at a label
(`BuildState.state_visit_of_failure`), and so does a row of visits all of which fail
(`BuildState.state_visitAll_of_failures`). -/

namespace Scenario

namespace BuildState

variable {settings : Settings} {owner : ClassDecl} {m : MethodDecl} {s t u : BuildState}
  {v : Visit} {e : ParseError}

/-! ## Fields and methods -/

/-- States in which the same has come of fields. -/
structure SameFields (s t : BuildState) : Prop where
  fieldCount : s.fieldCount = t.fieldCount
  fields : s.fields = t.fields

/-- States in which the same has come of methods. -/
structure SameMethods (s t : BuildState) : Prop where
  featureCount : s.featureCount = t.featureCount
  methods : s.methods = t.methods
  fixtures : s.fixtures = t.fixtures

theorem SameFields.refl (s : BuildState) : SameFields s s := ⟨rfl, rfl⟩

theorem SameFields.trans (h : SameFields s t) (h' : SameFields t u) : SameFields s u :=
  ⟨h.fieldCount.trans h'.fieldCount, h.fields.trans h'.fields⟩

theorem SameFields.symm (h : SameFields s t) : SameFields t s :=
  ⟨h.fieldCount.symm, h.fields.symm⟩

theorem SameMethods.refl (s : BuildState) : SameMethods s s := ⟨rfl, rfl, rfl⟩

theorem SameMethods.trans (h : SameMethods s t) (h' : SameMethods t u) : SameMethods s u :=
  ⟨h.featureCount.trans h'.featureCount, h.methods.trans h'.methods, h.fixtures.trans h'.fixtures⟩

theorem SameMethods.symm (h : SameMethods s t) : SameMethods t s :=
  ⟨h.featureCount.symm, h.methods.symm, h.fixtures.symm⟩

/-- Nothing but what comes of fields and of methods is in a state. -/
theorem eq_of_same (hf : SameFields s t) (hm : SameMethods s t) : s = t := by
  cases s
  cases t
  obtain ⟨rfl, rfl⟩ := hf
  obtain ⟨rfl, rfl, rfl⟩ := hm
  rfl

/-- The visit of a field leaves alone what has come of methods. -/
theorem sameMethods_visitField (f : FieldDecl) (s : BuildState) :
    SameMethods (s.visitField settings owner f).state s := by
  rw [state_visitField]
  split <;> exact ⟨rfl, rfl, rfl⟩

/-- The visit of a method leaves alone what has come of fields. -/
theorem sameFields_visitMethod (m : MethodDecl) (s : BuildState) :
    SameFields (s.visitMethod settings owner m).state s := by
  obtain ⟨hfields, hcount⟩ := (s.methodVisit settings owner m).fields_eq
  exact ⟨hcount, hfields⟩

/-! ## Visits that fail -/

/-- The state with ordinals taken that no feature has. -/
def loseOrdinals (s : BuildState) (n : Nat) : BuildState :=
  { s with featureCount := s.featureCount + n }

theorem loseOrdinals_loseOrdinals (s : BuildState) (n k : Nat) :
    (s.loseOrdinals n).loseOrdinals k = s.loseOrdinals (n + k) := by
  simp only [loseOrdinals, Nat.add_assoc]

/-- The visit of a method that fails loses an ordinal at most, and at a label only. -/
theorem MethodVisit.state_of_failure (hv : MethodVisit settings owner m s v)
    (he : v.failure = some e) :
    v.state = s.loseOrdinals (if e.refusal.isLabel then 1 else 0) := by
  cases hv with
  | ignored h | placed r h hfree | replaced r old h hold hp | feature blocks h hb | helper h =>
      cases he
  | refused refusal h =>
      cases he
      have hlabel : (owner.errorAt m refusal).refusal.isLabel = false :=
        MethodDecl.isLabel_of_classify_eq_error h
      rw [hlabel]
      rfl
  | duplicate r old h hold hp =>
      cases he
      rfl
  | unassembled e' h hassemble =>
      cases he
      obtain ⟨fault, hfault⟩ := ClassDecl.exists_fault_of_assemble_eq_error hassemble
      rw [hfault]
      rfl

/-- A visit that fails loses an ordinal at most, and at a label only. -/
theorem state_visit_of_failure {d : MemberDecl} (he : (s.visit settings owner d).failure = some e) :
    (s.visit settings owner d).state = s.loseOrdinals (if e.refusal.isLabel then 1 else 0) := by
  cases d with
  | field f =>
      rw [visit, failure_visitField] at he
      cases he
  | method m => exact (s.methodVisit settings owner m).state_of_failure he

/-- Visits that all fail lose an ordinal for each label at fault, and change nothing else. -/
theorem state_visitAll_of_failures {ds : List MemberDecl}
    (h : ∀ failure ∈ (s.visitAll settings owner ds).2, failure.isSome = true) :
    (s.visitAll settings owner ds).1 =
      s.loseOrdinals ((s.visitAll settings owner ds).2.countP failedAtLabel) := by
  induction ds generalizing s with
  | nil => rfl
  | cons d ds ih =>
      obtain ⟨hd, hds⟩ := List.forall_mem_cons.mp h
      obtain ⟨e, he⟩ := Option.isSome_iff_exists.mp hd
      have hstate := state_visit_of_failure he
      rw [visitAll, ih hds, hstate, loseOrdinals_loseOrdinals, he, List.countP_cons, Nat.add_comm]
      rfl

end BuildState

end Scenario
