import Scenario.Proofs.Build.Members

/-! # The order of declarations

Not every order of methods tells the same. Members are numbered and listed in the order of their
declarations, and of several fixtures of one role the last counts. Nothing else of the order has a
say: `MethodDecl.Rearranges` lets members change places with fixtures, fixtures with those of other
roles, and methods that a compiler made with all others, and
`ClassDecl.specification_eq_ok_iff_of_rearranges` says that a class and its rearrangement have the
same specification. -/

namespace Scenario

namespace MethodDecl

variable {ms ms' : List MethodDecl}

/-- The methods `ms'` are the methods `ms` in another order, in which the members keep theirs, and
so do the fixtures of every role. -/
structure Rearranges (ms' ms : List MethodDecl) : Prop where
  perm : ms'.Perm ms
  members : ms'.filter (·.IsMember) = ms.filter (·.IsMember)
  fixtures (r : Role) : ms'.filter (·.IsFixture r) = ms.filter (·.IsFixture r)

namespace Rearranges

theorem symm (h : Rearranges ms' ms) : Rearranges ms ms' where
  perm := h.perm.symm
  members := h.members.symm
  fixtures r := (h.fixtures r).symm

/-- The last fixture of a role stays the last. -/
theorem lastFixture?_eq (h : Rearranges ms' ms) (r : Role) :
    lastFixture? ms' r = lastFixture? ms r := by
  rw [lastFixture?, lastFixture?, h.fixtures]

/-- No role gains or loses a fixture. -/
theorem countP_isFixture_eq (h : Rearranges ms' ms) (r : Role) :
    ms'.countP (·.IsFixture r) = ms.countP (·.IsFixture r) := by
  rw [List.countP_eq_length_filter, List.countP_eq_length_filter, h.fixtures]

end Rearranges

end MethodDecl

namespace ClassDecl

variable {c : ClassDecl} {settings : Settings} {ms ms' : List MethodDecl} {spec : Specification}

/-- Of a class with its methods in another order the same is told. -/
theorem account_of_rearranges (h : MethodDecl.Rearranges ms c.methods) :
    { c with methods := ms }.account settings = c.account settings := by
  unfold account
  simp only [h.members, h.lastFixture?_eq]
  rfl

/-- A class with its methods in another order is well formed with it. -/
theorem WellFormed.of_rearranges (hw : c.WellFormed settings)
    (h : MethodDecl.Rearranges ms c.methods) : { c with methods := ms }.WellFormed settings where
  methods m hm := hw.methods m (h.perm.subset hm)
  fixtures hp r := by
    rw [h.countP_isFixture_eq]
    exact hw.fixtures hp r

/-- A class with its methods in another order builds if the class does, with the same
specification. -/
theorem specification_of_rearranges (h : MethodDecl.Rearranges ms c.methods)
    (hspec : c.specification settings = .ok spec) :
    { c with methods := ms }.specification settings = .ok spec := by
  have hw : c.WellFormed settings := exists_specification_iff.mp ⟨spec, hspec⟩
  obtain ⟨spec', hspec'⟩ := exists_specification_iff.mpr (hw.of_rearranges h)
  rw [hspec', specification_eq_account hspec', account_of_rearranges h,
    ← specification_eq_account hspec]

/-- A class and the class with its methods in another order build together, with the same
specification, as long as members keep their order and the fixtures of every role keep theirs. -/
theorem specification_eq_ok_iff_of_rearranges (h : MethodDecl.Rearranges ms c.methods) :
    { c with methods := ms }.specification settings = .ok spec ↔
      c.specification settings = .ok spec :=
  ⟨specification_of_rearranges (c := { c with methods := ms }) h.symm,
    specification_of_rearranges h⟩

/-- Fixtures, of which one is declared again, and a method that a compiler made. -/
def bracketMethods : List MethodDecl :=
  [{ name := "setup", position := ⟨2, 5⟩ }, { name := "cleanup", position := ⟨4, 5⟩ },
    { name := "StackSpec", isSynthetic := true, isConstructor := true },
    { name := "setup", position := ⟨6, 5⟩, statements := [{}] }]

/-- Two features with a helper between them. -/
def stackMethods : List MethodDecl :=
  [{ name := "pushing", statements := [{ label := "when" }, { label := "then" }] },
    { name := "fill", statements := [{}] },
    { name := "popping", statements := [{ label := "expect" }] }]

/-- A class with its fixtures in front. -/
def bracketedSpec : ClassDecl where
  name := "StackSpec"
  methods := bracketMethods ++ stackMethods

/-- With its fixtures at the end the class builds with the same specification. -/
theorem specification_eq_ok_iff_of_rearranges_bracketedSpec :
    ∃ spec, MethodDecl.Rearranges (stackMethods ++ bracketMethods) bracketedSpec.methods ∧
      bracketedSpec.specification { duplicates := .overwrite } = .ok spec ∧
      { bracketedSpec with methods := stackMethods ++ bracketMethods }.specification
        { duplicates := .overwrite } = .ok spec :=
  have h : MethodDecl.Rearranges (stackMethods ++ bracketMethods) bracketedSpec.methods :=
    ⟨List.perm_append_comm, rfl, fun r => by cases r <;> rfl⟩
  ⟨_, h, rfl, (specification_eq_ok_iff_of_rearranges h).mpr rfl⟩

end ClassDecl

end Scenario
