import Scenario.Classification

/-! # When a method is what

A method goes through a cascade of rules, in which an earlier rule hides the later ones.
`MethodDecl.Classified` has one rule for each result, and every rule says the whole of its
condition, so that their order does not matter. `MethodDecl.classify_eq_iff` says that this is what
the cascade computes.

By who wrote it and under what name, a method stands apart from all others in one of three ways
(`MethodDecl.standing`), whether or not it is refused. -/

namespace Scenario

namespace Role

/-- Every role is in the list of all roles. -/
theorem mem_all (r : Role) : r ∈ all := by cases r <;> decide

/-- The names of different roles differ in more than the case of their letters. -/
theorem lowerCase_name_injective {r r' : Role}
    (h : Text.lowerCase r.name = Text.lowerCase r'.name) : r = r' := by
  cases r <;> cases r' <;> first | rfl | exact absurd h (by decide)

/-- Different roles have different names. -/
theorem name_injective {r r' : Role} (h : r.name = r'.name) : r = r' :=
  lowerCase_name_injective (congrArg Text.lowerCase h)

/-- A role is found by its name. -/
theorem ofName?_eq_some_iff {name : String} {r : Role} : ofName? name = some r ↔ name = r.name := by
  unfold ofName?
  constructor
  · intro h
    have hr := List.find?_some h
    exact (beq_iff_eq.mp hr).symm
  · rintro rfl
    cases r <;> rfl

/-- A name resembles a role exactly when both have the same lower-case form. -/
theorem resembling?_eq_some_iff {name : String} {r : Role} :
    resembling? name = some r ↔ Text.lowerCase r.name = Text.lowerCase name := by
  unfold resembling?
  constructor
  · intro h
    have hr := List.find?_some h
    exact beq_iff_eq.mp hr
  · intro h
    cases hfound : all.find? fun role => Text.lowerCase role.name == Text.lowerCase name with
    | none =>
        have hnone := List.find?_eq_none.mp hfound r (mem_all r)
        exact absurd (beq_iff_eq.mpr h) hnone
    | some r' =>
        have hr' := List.find?_some hfound
        rw [lowerCase_name_injective ((beq_iff_eq.mp hr').trans h.symm)]

/-- The name of a role resembles that role. -/
theorem resembling?_name (r : Role) : resembling? r.name = some r :=
  resembling?_eq_some_iff.mpr rfl

/-- A name resembles no role exactly when its lower-case form is that of none. -/
theorem resembling?_eq_none_iff {name : String} :
    resembling? name = none ↔ ∀ r : Role, Text.lowerCase r.name ≠ Text.lowerCase name := by
  constructor
  · intro h r hr
    rw [resembling?_eq_some_iff.mpr hr] at h
    exact Option.some_ne_none _ h
  · intro h
    cases hfound : resembling? name with
    | none => rfl
    | some r => exact absurd (resembling?_eq_some_iff.mp hfound) (h r)

end Role

namespace MethodDecl

variable {m : MethodDecl}

/-- Whether the name of a method is that of a role. -/
def HasFixtureName (m : MethodDecl) : Prop := ∃ r : Role, m.name = r.name

/-- Whether the name of a method is that of a role but for the case of its letters. -/
def ResemblesFixture (m : MethodDecl) : Prop :=
  ∃ r : Role, Text.lowerCase r.name = Text.lowerCase m.name

/-- Names of roles are recognised by looking the role up. -/
theorem ofName?_eq_none_iff : Role.ofName? m.name = none ↔ ¬m.HasFixtureName := by
  rw [Option.eq_none_iff_forall_ne_some]
  unfold HasFixtureName
  simp only [ne_eq, Role.ofName?_eq_some_iff, not_exists]

instance (m : MethodDecl) : Decidable m.HasFixtureName :=
  decidable_of_iff (¬Role.ofName? m.name = none)
    ((not_congr ofName?_eq_none_iff).trans Classical.not_not)

/-- What a method is, or why it is refused. -/
inductive Classified (m : MethodDecl) : Except Refusal MethodVerdict → Prop where
  | ignored (hs : m.isSynthetic = true) : Classified m (.ok .ignored)
  | constructor (hs : m.isSynthetic = false) (hc : m.isConstructor = true) :
    Classified m (.error .constructor)
  | misspelled (r : Role) (hs : m.isSynthetic = false) (hc : m.isConstructor = false)
      (hr : Text.lowerCase r.name = Text.lowerCase m.name) (hn : m.name ≠ r.name) :
    Classified m (.error (.misspelledFixture r))
  | staticFixture (r : Role) (hs : m.isSynthetic = false) (hc : m.isConstructor = false)
      (hn : m.name = r.name) (hst : m.isStatic = true) : Classified m (.error .staticFixture)
  | fixture (r : Role) (hs : m.isSynthetic = false) (hc : m.isConstructor = false)
      (hn : m.name = r.name) (hst : m.isStatic = false) : Classified m (.ok (.fixture r))
  | staticFeature (hs : m.isSynthetic = false) (hc : m.isConstructor = false)
      (hn : ¬m.ResemblesFixture) (hl : m.labels ≠ []) (hst : m.isStatic = true) :
    Classified m (.error .staticFeature)
  | feature (hs : m.isSynthetic = false) (hc : m.isConstructor = false)
      (hn : ¬m.ResemblesFixture) (hl : m.labels ≠ []) (hst : m.isStatic = false) :
    Classified m (.ok .feature)
  | helper (hs : m.isSynthetic = false) (hc : m.isConstructor = false)
      (hn : ¬m.ResemblesFixture) (hl : m.labels = []) : Classified m (.ok .helper)

/-- A method with the name of a fixture resembles it. -/
theorem HasFixtureName.resemblesFixture (h : m.HasFixtureName) : m.ResemblesFixture := by
  obtain ⟨r, hr⟩ := h
  exact ⟨r, congrArg Text.lowerCase hr.symm⟩

/-- A method resembles no fixture exactly when no role is found for its name. -/
theorem resembling?_eq_none_iff : Role.resembling? m.name = none ↔ ¬m.ResemblesFixture :=
  Role.resembling?_eq_none_iff.trans not_exists.symm

theorem hasLabels_eq_false_iff : m.hasLabels = false ↔ m.labels = [] := by
  rw [← Bool.not_eq_true, m.hasLabels_iff, ne_eq, Decidable.not_not]

/-- The cascade applies one of the rules. -/
theorem classified (m : MethodDecl) : m.Classified m.classify := by
  unfold classify
  split
  · rename_i hs
    exact .ignored hs
  rename_i hs
  rw [Bool.not_eq_true] at hs
  split
  · rename_i hc
    exact .constructor hs hc
  rename_i hc
  rw [Bool.not_eq_true] at hc
  split
  · rename_i r hr
    rw [Role.resembling?_eq_some_iff] at hr
    split
    · rename_i hn
      exact .misspelled r hs hc hr (Ne.symm hn)
    rename_i hn
    rw [ne_eq, Decidable.not_not] at hn
    split
    · rename_i hst
      exact .staticFixture r hs hc hn.symm hst
    · rename_i hst
      exact .fixture r hs hc hn.symm (Bool.not_eq_true _ ▸ hst)
  · rename_i hn
    rw [resembling?_eq_none_iff] at hn
    split
    · rename_i hl
      exact .helper hs hc hn (hasLabels_eq_false_iff.mp (Bool.not_eq_true' _ ▸ hl))
    rename_i hl
    have hlabels : m.labels ≠ [] := by
      rw [← m.hasLabels_iff]
      simpa using hl
    split
    · rename_i hst
      exact .staticFeature hs hc hn hlabels hst
    · rename_i hst
      exact .feature hs hc hn hlabels (Bool.not_eq_true _ ▸ hst)

/-- The rules exclude each other, and the cascade applies the one that fits. -/
theorem classify_eq_iff {v : Except Refusal MethodVerdict} : m.classify = v ↔ m.Classified v := by
  constructor
  · rintro rfl
    exact m.classified
  · intro h
    unfold classify
    cases h with
    | ignored hs => simp [hs]
    | constructor hs hc => simp [hs, hc]
    | misspelled r hs hc hr hn =>
        simp [hs, hc, Role.resembling?_eq_some_iff.mpr hr, hn.symm]
    | staticFixture r hs hc hn hst | fixture r hs hc hn hst =>
        simp [hs, hc, hn, Role.resembling?_name, hst]
    | staticFeature hs hc hn hl hst | feature hs hc hn hl hst =>
        simp [hs, hc, resembling?_eq_none_iff.mpr hn, m.hasLabels_iff.mpr hl, hst]
    | helper hs hc hn hl =>
        simp [hs, hc, resembling?_eq_none_iff.mpr hn, hasLabels_eq_false_iff.mpr hl]

/-! ## Fixtures and members -/

variable {r r' : Role}

/-- The user wrote the method under the name of a role. -/
def IsFixture (m : MethodDecl) (r : Role) : Prop := m.isSynthetic = false ∧ m.name = r.name

instance (m : MethodDecl) (r : Role) : Decidable (m.IsFixture r) :=
  inferInstanceAs (Decidable (_ ∧ _))

/-- The user wrote the method, and under no name of a role. -/
def IsMember (m : MethodDecl) : Prop := m.isSynthetic = false ∧ ¬m.HasFixtureName

instance (m : MethodDecl) : Decidable m.IsMember := inferInstanceAs (Decidable (_ ∧ _))

/-- How a method stands among those of its class. -/
inductive Standing (m : MethodDecl) : Prop where
  /-- A compiler made it. -/
  | synthetic (hs : m.isSynthetic = true)
  | fixture (r : Role) (hr : m.IsFixture r)
  | member (hm : m.IsMember)

/-- Every method stands in one of the ways. -/
theorem standing (m : MethodDecl) : m.Standing := by
  cases hs : m.isSynthetic with
  | true => exact .synthetic hs
  | false =>
      by_cases hname : m.HasFixtureName
      · obtain ⟨r, hn⟩ := hname
        exact .fixture r ⟨hs, hn⟩
      · exact .member ⟨hs, hname⟩

theorem not_isFixture_of_synthetic (hs : m.isSynthetic = true) : ¬m.IsFixture r := by
  rintro ⟨hs', -⟩
  exact Bool.false_ne_true (hs'.symm.trans hs)

theorem not_isMember_of_synthetic (hs : m.isSynthetic = true) : ¬m.IsMember := by
  rintro ⟨hs', -⟩
  exact Bool.false_ne_true (hs'.symm.trans hs)

theorem IsFixture.not_isMember (h : m.IsFixture r) : ¬m.IsMember := fun hm => hm.2 ⟨r, h.2⟩

/-- A method is the fixture of one role at most. -/
theorem IsFixture.unique (h : m.IsFixture r) (h' : m.IsFixture r') : r = r' :=
  Role.name_injective (h.2.symm.trans h'.2)

theorem IsFixture.resemblesFixture (h : m.IsFixture r) : m.ResemblesFixture :=
  HasFixtureName.resemblesFixture ⟨r, h.2⟩

theorem IsMember.not_isFixture (h : m.IsMember) : ¬m.IsFixture r := fun hr => hr.not_isMember h

/-- A method that the user wrote is a member when its name resembles that of no role. -/
theorem isMember_of_not_resembles (hs : m.isSynthetic = false) (hn : ¬m.ResemblesFixture) :
    m.IsMember :=
  ⟨hs, fun hname => hn hname.resemblesFixture⟩

end MethodDecl

end Scenario
