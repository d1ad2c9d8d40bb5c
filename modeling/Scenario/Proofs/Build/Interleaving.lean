import Scenario.Proofs.Build.FirstFailure
import Scenario.Proofs.Build.Frame

/-! # Fields and methods in any order

What comes of fields depends on the fields that are visited, and what comes of methods on the
methods, each in their order. So the visits of the other kind can be left out of a session
(`BuildState.SameFields.visitAll`, `BuildState.SameMethods.visitAll`), and two sessions that visit
the same fields and the same methods, one interleaved with the other in any two ways, end in the
same state with the same failures (`BuildState.interleavings_agree`). -/

namespace Scenario

/-- Whether a member is a field. -/
def MemberDecl.isField : MemberDecl → Bool
  | .field _ => true
  | .method _ => false

namespace BuildState

variable {settings : Settings} {owner : ClassDecl} {s t : BuildState} {ds ds' : List MemberDecl}

/-- The members of a session, each with the failure of its visit. -/
def outcomes (settings : Settings) (owner : ClassDecl) (ds : List MemberDecl) (s : BuildState) :
    List (MemberDecl × Option ParseError) :=
  ds.zip (s.visitAll settings owner ds).2

/-- The outcome of the first visit stands before those of the session that goes on after it. -/
theorem outcomes_cons (d : MemberDecl) (ds : List MemberDecl) (s : BuildState) :
    s.outcomes settings owner (d :: ds) =
      (d, (s.visit settings owner d).failure) ::
        (s.visit settings owner d).state.outcomes settings owner ds := rfl

/-! ## Fields alone -/

/-- What comes of a field depends on what has come of fields. -/
theorem SameFields.visitField (h : SameFields s t) (f : FieldDecl) :
    SameFields (s.visitField settings owner f).state (t.visitField settings owner f).state := by
  rw [state_visitField, state_visitField]
  split
  · constructor
    · exact congrArg (· + 1) h.fieldCount
    · show s.fields ++ _ = t.fields ++ _
      rw [h.fields, h.fieldCount]
  · exact h

/-- Methods can be left out of a session for what comes of fields. -/
theorem SameFields.visitAll (h : SameFields s t) (ds : List MemberDecl) :
    SameFields (s.visitAll settings owner ds).1
      (t.visitAll settings owner (ds.filter (·.isField))).1 := by
  induction ds generalizing s t with
  | nil => exact h
  | cons d ds ih =>
      cases d with
      | field f => exact ih (h.visitField f)
      | method m => exact ih ((sameFields_visitMethod m s).trans h)

/-- The visits of fields in a session do not fail. -/
theorem filter_isField_outcomes (ds : List MemberDecl) (s : BuildState) :
    (s.outcomes settings owner ds).filter (·.1.isField) =
      (ds.filter (·.isField)).map fun d => (d, none) := by
  induction ds generalizing s with
  | nil => rfl
  | cons d ds ih =>
      cases d with
      | field f =>
          have hfailure : (s.visit settings owner (.field f)).failure = none :=
            failure_visitField f s
          rw [outcomes_cons, hfailure]
          exact congrArg _ (ih _)
      | method m => exact ih _

/-! ## Methods alone -/

/-- What comes of a method depends on what has come of methods. -/
theorem SameMethods.visitMethod (h : SameMethods s t) (m : MethodDecl) :
    SameMethods (s.visitMethod settings owner m).state
      (t.visitMethod settings owner m).state := by
  cases s
  cases t
  obtain ⟨rfl, rfl, rfl⟩ := h
  unfold BuildState.visitMethod
  cases m.classify with
  | error refusal => exact ⟨rfl, rfl, rfl⟩
  | ok verdict =>
      cases verdict with
      | ignored | helper => exact ⟨rfl, rfl, rfl⟩
      | fixture r =>
          dsimp only [addFixture]
          split <;> exact ⟨rfl, rfl, rfl⟩
      | feature =>
          dsimp only [addFeature]
          split <;> exact ⟨rfl, rfl, rfl⟩

/-- Fields can be left out of a session for what comes of methods. -/
theorem SameMethods.visitAll (h : SameMethods s t) (ds : List MemberDecl) :
    SameMethods (s.visitAll settings owner ds).1
        (t.visitAll settings owner (ds.filter (!·.isField))).1 ∧
      (s.outcomes settings owner ds).filter (!·.1.isField) =
        t.outcomes settings owner (ds.filter (!·.isField)) := by
  induction ds generalizing s t with
  | nil => exact ⟨h, rfl⟩
  | cons d ds ih =>
      cases d with
      | field f => exact ih ((sameMethods_visitField f s).trans h)
      | method m =>
          obtain ⟨hstate, houtcomes⟩ := ih (h.visitMethod m)
          have hfailure : (s.visit settings owner (.method m)).failure =
              (t.visit settings owner (.method m)).failure :=
            failure_visitMethod_congr rfl h.fixtures
          refine ⟨hstate, ?_⟩
          rw [outcomes_cons, hfailure]
          exact congrArg _ houtcomes

/-! ## Both -/

/-- Sessions that visit the same fields in the same order, and the same methods in the same order,
end in the same state, and the visit of each member fails in both in the same way or in neither. -/
theorem interleavings_agree (hfields : ds.filter (·.isField) = ds'.filter (·.isField))
    (hmethods : ds.filter (!·.isField) = ds'.filter (!·.isField)) (s : BuildState) :
    (s.visitAll settings owner ds).1 = (s.visitAll settings owner ds').1 ∧
      (s.outcomes settings owner ds).filter (·.1.isField) =
        (s.outcomes settings owner ds').filter (·.1.isField) ∧
      (s.outcomes settings owner ds).filter (!·.1.isField) =
        (s.outcomes settings owner ds').filter (!·.1.isField) := by
  have hf : SameFields (s.visitAll settings owner ds).1 _ := (SameFields.refl s).visitAll ds
  have hf' : SameFields (s.visitAll settings owner ds').1 _ := (SameFields.refl s).visitAll ds'
  have hm : SameMethods (s.visitAll settings owner ds).1 _ ∧ _ := (SameMethods.refl s).visitAll ds
  have hm' : SameMethods (s.visitAll settings owner ds').1 _ ∧ _ :=
    (SameMethods.refl s).visitAll ds'
  rw [← hfields] at hf'
  rw [← hmethods] at hm'
  refine ⟨eq_of_same (hf.trans hf'.symm) (hm.1.trans hm'.1.symm), ?_, hm.2.trans hm'.2.symm⟩
  rw [filter_isField_outcomes, filter_isField_outcomes, hfields]

/-- A field, one that is internal, and a static one that a property makes data. -/
def stackFields : List MemberDecl :=
  [.field { name := "stack" }, .field { name := "$memo" },
    .field { name := "size", isStatic := true }]

/-- Methods of every kind, among them a misspelled fixture, a stimulus without an outcome, and a
fixture that is declared again. -/
def stackMethods : List MemberDecl :=
  [.method { name := "setup" }, .method { name := "Setup" },
    .method { name := "pushing", statements := [{ label := "when" }] },
    .method { name := "popping", statements := [{ label := "expect" }] },
    .method { name := "setup", statements := [{}] }, .method { name := "fill" }]

/-- The methods with the fields among them. -/
def stackMembers : List MemberDecl :=
  stackMethods.take 2 ++ stackFields.take 1 ++ (stackMethods.drop 2).take 3 ++
    stackFields.drop 1 ++ stackMethods.drop 5

/-- It makes no difference whether the fields are visited first or among the methods; three of the
visits fail. -/
theorem interleavings_agree_stackMembers :
    (stackFields ++ stackMethods).filter (·.isField) = stackMembers.filter (·.isField) ∧
      (stackFields ++ stackMethods).filter (!·.isField) = stackMembers.filter (!·.isField) ∧
      (visitAll {} { name := "StackSpec", properties := [{ name := "size" }] }
          (stackFields ++ stackMethods) {}).1 =
        (visitAll {} { name := "StackSpec", properties := [{ name := "size" }] }
          stackMembers {}).1 ∧
      (visitAll {} { name := "StackSpec", properties := [{ name := "size" }] }
          stackMembers {}).2.map (·.map (·.refusal)) =
        [none, some (.misspelledFixture .setup), none,
          some (.label (.misplaced .methodEnd .stimulus)), none, some (.duplicateFixture .setup),
          none, none, none] :=
  ⟨rfl, rfl, (interleavings_agree rfl rfl {}).1, rfl⟩

end BuildState

end Scenario
