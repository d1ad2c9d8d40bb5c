import Scenario.Proofs.Block.Walk
import Scenario.Proofs.Build.Fields
import Scenario.Proofs.Build.Visit

/-! # What every state of a build keeps

A session visits fields and methods in any order, and goes on after visits that fail. Whatever it
visits, the state is coherent (`BuildState.Coherent`): ordinals and counters fit together, names and
places of fixtures too, and every body has the shape that its kind of method asks for.

Every way in which a visit changes the state has a lemma that keeps all of this at once; a visit
goes one of these ways (`BuildState.Coherent.visit`), and a session is a row of visits
(`BuildState.Coherent.visitAll`). The ordinals that features without blocks have used up are counted
along the way, as no state tells them. -/

namespace Scenario

/-- A member of a class that can be visited. -/
inductive MemberDecl where
  | field (f : FieldDecl)
  | method (m : MethodDecl)
deriving Repr

/-- Whether a label is at fault. -/
def Refusal.isLabel : Refusal → Bool
  | .label _ => true
  | _ => false

/-- Whether a visit failed at a label. -/
def failedAtLabel (failure : Option ParseError) : Bool := failure.any (·.refusal.isLabel)

namespace BuildState

/-- Visits a member. -/
def visit (settings : Settings) (owner : ClassDecl) : MemberDecl → BuildState → Visit
  | .field f, s => s.visitField settings owner f
  | .method m, s => s.visitMethod settings owner m

/-- Visits members one after another, whether or not the visits fail. The failure of each comes
with the last state. -/
def visitAll (settings : Settings) (owner : ClassDecl) :
    List MemberDecl → BuildState → BuildState × List (Option ParseError)
  | [], s => (s, [])
  | d :: ds, s =>
    let visit := s.visit settings owner d
    let (t, failures) := visitAll settings owner ds visit.state
    (t, visit.failure :: failures)

variable {settings : Settings} {owner : ClassDecl}

/-- A session can be broken off and resumed. -/
theorem visitAll_append (ds later : List MemberDecl) (s : BuildState) :
    s.visitAll settings owner (ds ++ later) =
      let (t, failures) := s.visitAll settings owner ds
      let (u, others) := t.visitAll settings owner later
      (u, failures ++ others) := by
  induction ds generalizing s with
  | nil => rfl
  | cons d ds ih =>
      rw [List.cons_append, visitAll, ih]
      rfl

end BuildState

/-! ## Bodies, members and fixtures -/

/-- The body is one block before any label, and nothing describes it. -/
def MethodSpec.IsWhole (m : MethodSpec) : Prop :=
  ∃ b : Block, m.blocks = [b] ∧ b.kind = .anonymous ∧ b.descriptions = []

/-- The body is a block before any label and then at least one more, each may follow the one before
it, and the body may end after the last. -/
def MethodSpec.IsDivided (m : MethodSpec) : Prop :=
  (∃ kinds, kinds ≠ [] ∧ m.blockKinds = .anonymous :: kinds) ∧
    List.IsChain (fun k next => k.allows next = true) (m.blockKinds ++ [BlockKind.methodEnd])

/-- What holds of every member of a state. -/
structure Member.Sound (d : Member) : Prop where
  /-- No member has the name of a role, in whatever letters. -/
  name : ∀ r : Role, Text.lowerCase r.name ≠ Text.lowerCase d.method.name
  feature : d.isFeature = true → d.method.IsDivided
  helper : d.isFeature = false → d.method.IsWhole

/-- What holds of every fixture that stands in the place of a role. -/
structure Fixture.Sound (r : Role) (f : Fixture) : Prop where
  role : f.role = r
  name : f.method.name = r.name
  body : f.method.IsWhole

namespace MethodDecl

variable {m : MethodDecl} {r : Role}

theorem isWhole_single (m : MethodDecl) :
    MethodSpec.IsWhole ⟨m.name, [Block.single m.statements], m.position⟩ :=
  ⟨_, rfl, rfl, rfl⟩

theorem sound_asFixture (hn : m.name = r.name) : (m.asFixture r).Sound r :=
  ⟨rfl, hn, m.isWhole_single⟩

theorem sound_asHelper (hn : ¬m.ResemblesFixture) : m.asHelper.Sound :=
  ⟨not_exists.mp hn, nofun, fun _ => m.isWhole_single⟩

/-- A method with labels is divided by them. -/
theorem sound_asFeature {blocks : List Block} (hn : ¬m.ResemblesFixture) (hl : m.labels ≠ [])
    (hb : m.assemble = .ok blocks) (ordinal : Nat) : (m.asFeature ordinal blocks).Sound := by
  obtain ⟨kinds, hkinds, w⟩ := exists_walk_of_assemble hb
  refine ⟨not_exists.mp hn, fun _ => ⟨⟨kinds, ?_, hkinds⟩, ?_⟩, nofun⟩
  · rw [ne_eq, w.kinds_eq_nil_iff]
    exact hl
  · change List.IsChain _ (blocks.map (·.kind) ++ _)
    rw [hkinds]
    exact w.isChain

/-- A refusal of a declaration is none of a label. -/
theorem isLabel_of_classify_eq_error {refusal : Refusal} (h : m.classify = .error refusal) :
    refusal.isLabel = false := by
  cases classify_eq_iff.mp h <;> rfl

end MethodDecl

namespace BuildState

variable {settings : Settings} {owner : ClassDecl} {s : BuildState} {lost : Nat}

/-! ## The invariant -/

/-- The parts of a state fit together, when so many ordinals are lost. -/
structure Coherent (s : BuildState) (lost : Nat) : Prop where
  fieldCount : s.fieldCount = s.fields.length
  /-- Fields are numbered without a gap. -/
  fieldOrdinals : s.fields.map (·.ordinal) =
    (List.range s.fields.length).map fun i : Nat => (i : Int)
  /-- Every ordinal is that of one feature or lost. -/
  featureCount : s.featureCount = s.methods.countP (·.isFeature) + lost
  /-- Features are numbered in their order. -/
  increasing : (s.methods.filterMap Member.ordinal?).Pairwise (· < ·)
  below : ∀ n ∈ s.methods.filterMap Member.ordinal?, n < s.featureCount
  members : ∀ d ∈ s.methods, d.Sound
  fixtures : ∀ r f, s.fixtures.get? r = some f → f.Sound r

/-- At the start of a build nothing is there. -/
theorem coherent_empty : Coherent {} 0 where
  fieldCount := rfl
  fieldOrdinals := rfl
  featureCount := rfl
  increasing := .nil
  below _ h := absurd h List.not_mem_nil
  members _ h := absurd h List.not_mem_nil
  fixtures r f h := by cases r <;> cases h

namespace Coherent

/-- A field is added with the ordinal that is next. -/
theorem addField (h : Coherent s lost) (f : FieldDecl) :
    Coherent
      { s with
        fieldCount := s.fieldCount + 1
        fields := s.fields ++ [f.asField settings owner s.fieldCount] } lost :=
  { h with
    fieldCount := by
      rw [List.length_append, List.length_singleton, h.fieldCount]
    fieldOrdinals := by
      rw [List.map_append, List.length_append, List.length_singleton, List.range_succ,
        List.map_append, h.fieldOrdinals, h.fieldCount]
      rfl }

/-- A sound fixture takes the place of its role. -/
theorem putFixture (h : Coherent s lost) {r : Role} {f : Fixture} (hf : f.Sound r) :
    Coherent { s with fixtures := s.fixtures.put r f } lost :=
  { h with
    fixtures := by
      intro r' f' hf'
      by_cases hr : r' = r
      · subst hr
        rw [s.fixtures.get?_put_self] at hf'
        cases hf'
        exact hf
      · rw [s.fixtures.get?_put_of_ne hr] at hf'
        exact h.fixtures r' f' hf' }

/-- A sound helper is added; ordinals are left alone. -/
theorem addHelper (h : Coherent s lost) {m : MethodDecl} (hm : m.asHelper.Sound) :
    Coherent { s with methods := s.methods ++ [m.asHelper] } lost := by
  have hordinals : (s.methods ++ [m.asHelper]).filterMap Member.ordinal? =
      s.methods.filterMap Member.ordinal? := by
    rw [List.filterMap_append]
    exact List.append_nil _
  refine { h with featureCount := ?_, increasing := ?_, below := ?_, members := ?_ }
  · rw [List.countP_append]
    exact h.featureCount
  · rw [hordinals]
    exact h.increasing
  · rw [hordinals]
    exact h.below
  · exact List.forall_mem_append.mpr ⟨h.members, List.forall_mem_singleton.mpr hm⟩

/-- A sound feature is added with the ordinal that is next, which is above all others. -/
theorem addFeature (h : Coherent s lost) {m : MethodDecl} {blocks : List Block}
    (hm : (m.asFeature s.featureCount blocks).Sound) :
    Coherent
      { s with
        featureCount := s.featureCount + 1
        methods := s.methods ++ [m.asFeature s.featureCount blocks] } lost := by
  have hordinals : (s.methods ++ [m.asFeature s.featureCount blocks]).filterMap Member.ordinal? =
      s.methods.filterMap Member.ordinal? ++ [(s.featureCount : Int)] := by
    rw [List.filterMap_append]
    rfl
  refine { h with featureCount := ?_, increasing := ?_, below := ?_, members := ?_ }
  · rw [List.countP_append, h.featureCount, Nat.add_right_comm]
    rfl
  · rw [hordinals, List.pairwise_append]
    refine ⟨h.increasing, List.pairwise_singleton _ _, fun n hn n' hn' => ?_⟩
    rw [List.mem_singleton.mp hn']
    exact h.below n hn
  · rw [hordinals, List.forall_mem_append, List.forall_mem_singleton]
    refine ⟨fun n hn => ?_, ?_⟩
    · exact Int.lt_trans (h.below n hn) (Int.ofNat_lt.mpr (Nat.lt_succ_self _))
    · exact Int.ofNat_lt.mpr (Nat.lt_succ_self _)
  · exact List.forall_mem_append.mpr ⟨h.members, List.forall_mem_singleton.mpr hm⟩

/-- An ordinal is lost. -/
theorem loseOrdinal (h : Coherent s lost) :
    Coherent { s with featureCount := s.featureCount + 1 } (lost + 1) :=
  { h with
    featureCount := by rw [h.featureCount, Nat.add_assoc]
    below := fun n hn =>
      Int.lt_trans (h.below n hn) (Int.ofNat_lt.mpr (Nat.lt_succ_self _)) }

/-! ## Visits -/

/-- The visit of a method keeps a state coherent. -/
theorem methodVisit (h : Coherent s lost) {m : MethodDecl} {v : Visit}
    (hv : MethodVisit settings owner m s v) :
    Coherent v.state (lost + if failedAtLabel v.failure then 1 else 0) := by
  cases hv with
  | ignored hc => exact h
  | refused refusal hc =>
      have hlabel : failedAtLabel (some (owner.errorAt m refusal)) = false :=
        MethodDecl.isLabel_of_classify_eq_error hc
      rw [hlabel]
      exact h
  | placed r hc hfree | replaced r old hc hold hp =>
      cases MethodDecl.classify_eq_iff.mp hc with
      | fixture r hs hc hn hst => exact h.putFixture (MethodDecl.sound_asFixture hn)
  | duplicate r old hc hold hp => exact h
  | feature blocks hc hb =>
      cases MethodDecl.classify_eq_iff.mp hc with
      | feature hs hc hn hl hst =>
          have hb := ClassDecl.assemble_eq_ok_iff.mp hb
          exact h.addFeature (MethodDecl.sound_asFeature hn hl hb _)
  | unassembled e hc he =>
      -- The only failure that changes the state: the ordinal was taken before the body failed.
      obtain ⟨fault, hfault⟩ := ClassDecl.exists_fault_of_assemble_eq_error he
      have hlabel : failedAtLabel (some e) = true := by
        rw [failedAtLabel, Option.any_some, hfault]
        rfl
      rw [hlabel]
      exact h.loseOrdinal
  | helper hc =>
      cases MethodDecl.classify_eq_iff.mp hc with
      | helper hs hc hn hl => exact h.addHelper (MethodDecl.sound_asHelper hn)

/-- Every visit keeps a state coherent; a failure at a label loses an ordinal. -/
theorem visit (h : Coherent s lost) (d : MemberDecl) :
    Coherent (s.visit settings owner d).state
      (lost + if failedAtLabel (s.visit settings owner d).failure then 1 else 0) := by
  cases d with
  | field f =>
      rw [BuildState.visit, failure_visitField, state_visitField]
      by_cases hdata : f.IsData settings owner
      · rw [if_pos hdata]
        exact h.addField f
      · rw [if_neg hdata]
        exact h
  | method m => exact h.methodVisit (s.methodVisit settings owner m)

/-- A session keeps a state coherent; its failures at labels are the ordinals it loses. -/
theorem visitAll (h : Coherent s lost) (ds : List MemberDecl) :
    Coherent (s.visitAll settings owner ds).1
      (lost + (s.visitAll settings owner ds).2.countP failedAtLabel) := by
  -- Each visit hands on the ordinals lost so far, whatever its own failure was.
  induction ds generalizing s lost with
  | nil => exact h
  | cons d ds ih =>
      have hstep : Coherent (s.visit settings owner d).state _ := h.visit d
      have hrest := ih hstep
      rwa [Nat.add_assoc, Nat.add_comm (ite _ _ _), ← List.countP_cons] at hrest

end Coherent

/-! ## Places that are taken -/

variable {r : Role} {f : Fixture}

/-- Where fixtures are declared once, the visit of a method leaves taken places alone. -/
theorem MethodVisit.get?_fixtures_of_some {m : MethodDecl} {v : Visit}
    (hv : MethodVisit settings owner m s v) (hp : settings.duplicates = .error)
    (hf : s.fixtures.get? r = some f) : v.state.fixtures.get? r = some f := by
  cases hv with
  | ignored hc | refused refusal hc | duplicate r' old hc hold hp' => exact hf
  | feature blocks hc hb | unassembled e hc he | helper hc => exact hf
  | placed r' hc hfree =>
      have hr : r ≠ r' := by
        rintro rfl
        rw [hfree] at hf
        cases hf
      exact (s.fixtures.get?_put_of_ne hr _).trans hf
  | replaced r' old hc hold hp' =>
      rw [hp] at hp'
      cases hp'

/-- Where fixtures are declared once, every visit leaves taken places alone. -/
theorem get?_fixtures_visit_of_some (hp : settings.duplicates = .error)
    (hf : s.fixtures.get? r = some f) (d : MemberDecl) :
    (s.visit settings owner d).state.fixtures.get? r = some f := by
  cases d with
  | field g =>
      rw [BuildState.visit, state_visitField]
      split <;> exact hf
  | method m => exact (s.methodVisit settings owner m).get?_fixtures_of_some hp hf

/-- Where fixtures are declared once, a session leaves taken places alone. -/
theorem get?_fixtures_visitAll_of_some (hp : settings.duplicates = .error)
    (hf : s.fixtures.get? r = some f) (ds : List MemberDecl) :
    (s.visitAll settings owner ds).1.fixtures.get? r = some f := by
  induction ds generalizing s with
  | nil => exact hf
  | cons d ds ih => exact ih (get?_fixtures_visit_of_some hp hf d)

end BuildState

end Scenario
