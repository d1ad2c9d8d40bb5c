import Scenario.Proofs.Specification.Outline

/-! # Methods found by name

A method of a specification is looked up among the members first and among the fixtures then. In a
class that builds this order does not matter: no member has the name of a role, in whatever letters,
and the fixture in the place of a role has the name of that role. So a role and its name find the
same fixture, and any other name finds the first method that the user wrote under it
(`ClassDecl.FirstNamed`).

`ClassDecl.fixture_names_reserved` puts this together. -/

namespace Scenario

namespace Fixtures

variable {fs : Fixtures}

/-- Where every fixture has the name of the role in whose place it stands, a name finds the place of
its role. -/
theorem find?_inOrder (hnames : ∀ r f, fs.get? r = some f → f.method.name = r.name) (r : Role) :
    fs.inOrder.find? (·.method.name == r.name) = fs.get? r := by
  have hplace (r' : Role) : (fs.get? r').any (·.method.name == r.name) =
      (decide (r' = r) && (fs.get? r).isSome) := by
    by_cases hr : r' = r
    · subst hr
      cases hf : fs.get? r' with
      | none => simp
      | some f => simp [hnames r' f hf]
    · cases hf : fs.get? r' with
      | none => simp [hr]
      | some f =>
          have hne : r'.name ≠ r.name := fun h => hr (Role.name_injective h)
          simp [hr, hnames r' f hf, hne]
  have honly (filled : Bool) : Role.inOrder.find? (fun r' => decide (r' = r) && filled) =
      if filled then some r else none := by
    cases r <;> cases filled <;> rfl
  rw [inOrder_eq, List.find?_filterMap]
  simp only [hplace, honly]
  cases hf : fs.get? r with
  | none => simp
  | some f => simpa using hf

/-- Where every fixture has the role in whose place it stands, each place is told once. -/
theorem filter_inOrder (hroles : ∀ r f, fs.get? r = some f → f.role = r) (r : Role) :
    fs.inOrder.filter (·.role = r) = (fs.get? r).toList := by
  have hplace (r' : Role) :
      (fs.get? r').filter (·.role = r) = if r' = r then fs.get? r else none := by
    by_cases hr : r' = r
    · subst hr
      cases hf : fs.get? r' with
      | none => simp
      | some f => simp [hroles r' f hf]
    · cases hf : fs.get? r' with
      | none => simp [hr]
      | some f => simp [hr, hroles r' f hf]
  have honly (o : Option Fixture) :
      Role.inOrder.filterMap (fun r' => if r' = r then o else none) = o.toList := by
    cases r <;> cases o <;> rfl
  rw [inOrder_eq, List.filter_filterMap]
  simp only [hplace, honly]

end Fixtures

namespace MethodDecl

variable {m : MethodDecl} {ms : List MethodDecl} {r : Role} {f : Fixture}

/-- What stands in the place of a role is a fixture of that role and of its name. -/
theorem of_lastFixture?_eq_some (h : lastFixture? ms r = some f) :
    f.role = r ∧ f.method.name = r.name := by
  obtain ⟨m, hm, rfl⟩ := Option.map_eq_some_iff.mp h
  have hr := (List.mem_filter.mp (List.mem_of_getLast? hm)).2
  rw [decide_eq_true_iff] at hr
  exact ⟨rfl, hr.2⟩

/-- Whether a method is numbered among the features. -/
def IsFeature (m : MethodDecl) : Prop := m.IsMember ∧ m.labels ≠ []

instance (m : MethodDecl) : Decidable m.IsFeature := inferInstanceAs (Decidable (_ ∧ _))

/-- Members keep the names of their methods. -/
theorem map_name_numbered (ms : List MethodDecl) (n : Nat) :
    (numbered n ms).map (·.method.name) = ms.map (·.name) := by
  induction ms generalizing n with
  | nil => rfl
  | cons m ms ih => rw [numbered, List.map_cons, List.map_cons, ih, name_asMember]

/-- The numbers go on after the features of a first part. -/
theorem numbered_append (before after : List MethodDecl) (n : Nat) :
    numbered n (before ++ after) =
      numbered n before ++ numbered (n + before.countP (·.labels ≠ [])) after := by
  induction before generalizing n with
  | nil => rfl
  | cons m before ih =>
      rw [List.cons_append, numbered, ih, numbered, List.cons_append]
      by_cases hl : m.labels = []
      · simp [hl]
      · simp [hl, Nat.add_assoc, Nat.add_comm 1]

/-- Among members, those with labels are the features. -/
theorem countP_labels_members (ms : List MethodDecl) :
    (ms.filter (·.IsMember)).countP (·.labels ≠ []) = ms.countP (·.IsFeature) := by
  rw [List.countP_filter]
  apply List.countP_congr
  intro m _
  rw [Bool.and_eq_true, decide_eq_true_iff, decide_eq_true_iff, decide_eq_true_iff]
  exact and_comm

end MethodDecl

namespace ClassDecl

variable {c : ClassDecl} {settings : Settings} {spec : Specification} {name : String}

/-- The member of the first method that the user wrote under a name, if there is one. -/
inductive FirstNamed (c : ClassDecl) (name : String) : Option AnyMethod → Prop where
  | absent (h : ∀ m ∈ c.methods, m.isSynthetic = false → m.name ≠ name) : FirstNamed c name none
  /-- The method stands as it is declared; if it is a feature, its ordinal is the number of features
  before it. -/
  | found (before : List MethodDecl) (m : MethodDecl) (after : List MethodDecl) (d : Member)
      (hc : c.methods = before ++ m :: after)
      (hbefore : ∀ b ∈ before, b.isSynthetic = false → b.name ≠ name)
      (hs : m.isSynthetic = false) (hn : m.name = name) (hd : m.DeclaredAs d)
      (hordinal : d.ordinal? =
        if m.labels = [] then none else some (before.countP (·.IsFeature) : Int)) :
    FirstNamed c name (some (.member d))

/-- Among the members, a name that is none of a role finds the first method of that name. -/
theorem firstNamed_find? (h : c.specification settings = .ok spec)
    (hname : ∀ r : Role, name ≠ r.name) :
    c.FirstNamed name ((spec.methods.find? (·.method.name == name)).map .member) := by
  have hw : c.WellFormed settings := exists_specification_iff.mp ⟨spec, h⟩
  -- Where no method that the user wrote has the name, no member of them has it.
  have hnone {ms : List MethodDecl} (hms : ∀ m ∈ ms, m.isSynthetic = false → m.name ≠ name) :
      (MethodDecl.numbered 0 (ms.filter (·.IsMember))).find? (·.method.name == name) = none := by
    rw [List.find?_eq_none]
    intro d hd hdname
    have hmem := List.mem_map_of_mem (f := (·.method.name)) hd
    rw [MethodDecl.map_name_numbered, beq_iff_eq.mp hdname] at hmem
    obtain ⟨m, hm, hn⟩ := List.mem_map.mp hmem
    obtain ⟨hm, hmember⟩ := List.mem_filter.mp hm
    exact hms m hm (of_decide_eq_true hmember).1 hn
  rw [methods_eq_numbered h]
  cases hfind : c.methods.find? (fun m => !m.isSynthetic && m.name == name) with
  | none =>
      have hall : ∀ m ∈ c.methods, m.isSynthetic = false → m.name ≠ name := by
        simpa using hfind
      rw [hnone hall]
      exact .absent hall
  | some m =>
      obtain ⟨hfound, before, after, hc, hall⟩ := List.find?_eq_some_iff_append.mp hfind
      have hbefore : ∀ b ∈ before, b.isSynthetic = false → b.name ≠ name := by
        intro b hb hs hn
        simpa [hs, hn] using hall b hb
      have hm : m.isSynthetic = false ∧ m.name = name := by
        simpa using hfound
      have hmember : m.IsMember := ⟨hm.1, fun ⟨r, hr⟩ => hname r (hm.2.symm.trans hr)⟩
      have hmem : m ∈ c.methods := by
        rw [hc]
        exact List.mem_append_right _ List.mem_cons_self
      rw [hc, List.filter_append, MethodDecl.numbered_append, List.find?_append, hnone hbefore,
        MethodDecl.countP_labels_members, Nat.zero_add,
        List.filter_cons_of_pos (by simpa using hmember), MethodDecl.numbered,
        List.find?_cons_of_pos (by simpa [m.name_asMember] using hm.2)]
      exact .found before m after _ hc hbefore hm.1 hm.2
        (MethodDecl.declaredAs_asMember hmember (hw.methods m hmem hm.1) _) (m.ordinal?_asMember _)

/-- The names of roles are those of fixtures alone. -/
structure ReservesFixtureNames (c : ClassDecl) (spec : Specification) : Prop where
  /-- No member has the name of a role, in whatever letters. -/
  members : ∀ d ∈ spec.methods, ∀ r : Role,
    Text.lowerCase d.method.name ≠ Text.lowerCase r.name
  /-- What stands in the place of a role is a fixture of that role and of its name. -/
  fixtures (r : Role) (f : Fixture) : spec.fixtures.get? r = some f →
    f.role = r ∧ f.method.name = r.name
  /-- The name of a role finds what stands in its place, or nothing if that is empty. -/
  method?_name (r : Role) : spec.method? r.name = (spec.fixtures.get? r).map .fixture
  /-- Each place that is filled is told once among the fixtures. -/
  once (r : Role) : spec.fixtureMethods.filter (·.role = r) = (spec.fixtures.get? r).toList
  /-- Any other name finds the first method that the user wrote under it. -/
  method? (name : String) : (∀ r : Role, name ≠ r.name) → c.FirstNamed name (spec.method? name)

/-- In a class that builds no member has the name of a role, in whatever letters. -/
theorem lowerCase_name_ne (h : c.specification settings = .ok spec) :
    ∀ d ∈ spec.methods, ∀ r : Role, Text.lowerCase d.method.name ≠ Text.lowerCase r.name := by
  have hw : c.WellFormed settings := exists_specification_iff.mp ⟨spec, h⟩
  intro d hd r hr
  obtain ⟨m, hm, hmember, -, k, -, rfl⟩ := exists_of_mem_methods h hd
  rw [m.name_asMember] at hr
  -- A name that differs from that of a role in capitals only is refused as a slip.
  exact hmember.2 ⟨r, (hw.methods m hm hmember.1).spelled r hr⟩

/-- A class that builds keeps the names of roles for its fixtures. -/
theorem fixture_names_reserved (h : c.specification settings = .ok spec) :
    c.ReservesFixtureNames spec := by
  have hmembers := lowerCase_name_ne h
  have hfixtures : ∀ r f, spec.fixtures.get? r = some f → f.role = r ∧ f.method.name = r.name := by
    intro r f hf
    rw [get?_fixtures_eq h] at hf
    exact MethodDecl.of_lastFixture?_eq_some hf
  have hfound (name : String) : spec.method? name =
      ((spec.methods.find? (·.method.name == name)).map .member).or
        ((spec.fixtures.inOrder.find? (·.method.name == name)).map .fixture) := by
    unfold Specification.method? Specification.allMethods
    rw [List.find?_append, List.find?_map, List.find?_map]
    rfl
  constructor
  case members => exact hmembers
  case fixtures => exact hfixtures
  case once => exact Fixtures.filter_inOrder fun r f hf => (hfixtures r f hf).1
  case method?_name =>
    intro r
    have hnone : spec.methods.find? (·.method.name == r.name) = none := by
      rw [List.find?_eq_none]
      intro d hd hdname
      exact hmembers d hd r (congrArg Text.lowerCase (beq_iff_eq.mp hdname))
    rw [hfound, hnone, Fixtures.find?_inOrder fun r f hf => (hfixtures r f hf).2]
    rfl
  case method? =>
    intro name hname
    have hnone : spec.fixtures.inOrder.find? (·.method.name == name) = none := by
      rw [Fixtures.inOrder_eq, List.find?_eq_none]
      intro f hf hfname
      obtain ⟨r, -, hr⟩ := List.mem_filterMap.mp hf
      exact hname r ((beq_iff_eq.mp hfname).symm.trans (hfixtures r f hr).2)
    rw [hfound, hnone, Option.map_none, Option.or_none]
    exact firstNamed_find? h hname

/-- A class with several methods of one name, one of which a compiler made. -/
def overloadedSpec : ClassDecl where
  name := "OverloadedSpec"
  methods :=
    [{ name := "fill", isSynthetic := true },
      { name := "popping", statements := [{ label := "expect" }] },
      { name := "cleanupSpec", statements := [{}] },
      { name := "fill", statements := [{ label := "when" }, { label := "then" }] },
      { name := "fill", statements := [{}] }]

/-- The class builds; the name of a role finds its fixture, and the other name its first method. -/
theorem fixture_names_reserved_overloadedSpec :
    ∃ spec, overloadedSpec.specification {} = .ok spec ∧
      overloadedSpec.ReservesFixtureNames spec ∧
      (spec.method? "cleanupSpec").map (·.role?) = some (some .cleanupSpec) ∧
      (spec.method? "fill").map (·.ordinal?) = some (some 1) := by
  have h : overloadedSpec.specification {} = .ok (overloadedSpec.account {}) := rfl
  exact ⟨_, h, fixture_names_reserved h, rfl, rfl⟩

end ClassDecl

end Scenario
