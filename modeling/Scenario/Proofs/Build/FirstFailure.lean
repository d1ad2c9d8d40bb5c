import Scenario.Proofs.Block.Order
import Scenario.Proofs.Build.Session

/-! # The first failure

A class is refused at the first method whose visit fails. The visit of a row of methods fails as
the visit of its first part does, or else as that of the rest
(`BuildState.failure_visitMethods_append`), so that a failure is not undone by methods that follow.
Methods that a compiler made have no say in it (`BuildState.failure_visitMethods_written`), and of
the class only where it locates errors has, that is its name and its file
(`BuildState.failure_visitMethods_congr`).

For whole classes this comes to one fact, `ClassDecl.specification_eq_error_of_isPrefix`: an error
stays when what the user wrote is continued. `ClassDecl.refused_at_first_failing_method` says that a
class is refused at one of its methods, of which the error is told. -/

namespace Scenario

/-! ## Where labels are at fault -/

namespace Block

variable {last : Position} {kind : BlockKind} {statements : List Statement} {fault : LabelFault}
  {p : Position}

/-- A fault lies at the end of the body or at a statement with a label. -/
theorem position_of_assembleFrom_eq_error
    (h : assembleFrom last kind statements = .error (fault, p)) :
    p = last ∨ ∃ s ∈ statements, s.label.isSome = true ∧ p = s.position := by
  cases fails_of_assembleFrom_eq_error h with
  | label before s after label k fault hbody hl w hnext =>
      refine .inr ⟨s, ?_, Option.isSome_of_eq_some hl, rfl⟩
      rw [hbody]
      exact List.mem_append_right before List.mem_cons_self
  | ending k w hend => exact .inl rfl

end Block

/-- The place that a location tells, in its file. -/
def Location.position (l : Location) : Position := ⟨l.line, l.column⟩

/-- An error is told of a method of a class: it names both and the file of the class, and lies at
the declaration of the method or, where a label is at fault, in its body. -/
structure ParseError.LiesIn (e : ParseError) (c : ClassDecl) (m : MethodDecl) : Prop where
  className : e.location.className = some c.name
  methodName : e.location.methodName = some m.name
  /-- A class without a file, or with an empty name for it, is in none. -/
  file : e.location.file = (c.sourceFile.filter (· ≠ "")).map Path.ofText
  declaration : e.refusal.isLabel = false → e.location.position = m.position
  body : e.refusal.isLabel = true → e.location.position = m.lastPosition ∨
    ∃ s ∈ m.statements, s.label.isSome = true ∧ e.location.position = s.position

namespace ClassDecl

variable {owner owner' : ClassDecl} {m : MethodDecl} {e : ParseError}

/-- The file of a class is the one it names, if that name is not empty. -/
theorem file?_eq (c : ClassDecl) : c.file? = (c.sourceFile.filter (· ≠ "")).map Path.ofText := by
  unfold file?
  split
  · rename_i h
    rw [h]
    rfl
  · rename_i h
    rw [h]
    rfl
  · rename_i s hne h
    have hs : s ≠ "" := hne
    simp [h, Option.filter_some, hs]

/-- A refused declaration is told of its method. -/
theorem errorAt_liesIn {refusal : Refusal} (h : refusal.isLabel = false) :
    (owner.errorAt m refusal).LiesIn owner m where
  className := rfl
  methodName := rfl
  file := owner.file?_eq
  declaration _ := rfl
  body hlabel := absurd (h.symm.trans hlabel) Bool.false_ne_true

/-- The error for a method tells the fault of its body, and the place of the fault. -/
theorem assemble_eq_error_iff :
    owner.assemble m = .error e ↔
      ∃ fault p, Block.assembleFrom m.lastPosition .anonymous m.statements = .error (fault, p) ∧
        e = ⟨.label fault, owner.locate p (some m.name)⟩ := by
  unfold assemble MethodDecl.assemble
  cases Block.assembleFrom m.lastPosition .anonymous m.statements with
  | ok found => exact iff_of_false nofun nofun
  | error found =>
      constructor
      · intro h
        cases h
        exact ⟨found.1, found.2, rfl, rfl⟩
      · rintro ⟨fault, p, h, rfl⟩
        cases h
        rfl

/-- A label at fault is told of the method in whose body it stands. -/
theorem liesIn_of_assemble_eq_error (h : owner.assemble m = .error e) : e.LiesIn owner m := by
  obtain ⟨fault, p, hfrom, rfl⟩ := assemble_eq_error_iff.mp h
  exact ⟨rfl, rfl, owner.file?_eq, nofun,
    fun _ => Block.position_of_assembleFrom_eq_error hfrom⟩

/-- Of a class only its name and its file count where an error lies. -/
theorem locate_congr_of_file? (hname : owner'.name = owner.name)
    (hfile : owner'.file? = owner.file?) : owner'.locate = owner.locate := by
  funext p name
  simp only [locate, hname, hfile]

theorem locate_congr (hname : owner'.name = owner.name)
    (hsource : owner'.sourceFile = owner.sourceFile) : owner'.locate = owner.locate :=
  locate_congr_of_file? hname (by rw [file?_eq, file?_eq, hsource])

end ClassDecl

namespace BuildState

variable {settings : Settings} {owner owner' : ClassDecl} {m : MethodDecl}
  {ms later : List MethodDecl} {s t : BuildState} {e : ParseError} {v : Visit}

/-! ## One visit -/

/-- The error of a visit is told of the method that is visited. -/
theorem MethodVisit.liesIn (hv : MethodVisit settings owner m s v) (he : v.failure = some e) :
    e.LiesIn owner m := by
  cases hv with
  | ignored h | placed r h hfree | replaced r old h hold hp | feature blocks h hb | helper h =>
      cases he
  | refused refusal h =>
      cases he
      exact ClassDecl.errorAt_liesIn (MethodDecl.isLabel_of_classify_eq_error h)
  | duplicate r old h hold hp =>
      cases he
      exact ClassDecl.errorAt_liesIn rfl
  | unassembled e' h hassemble =>
      cases he
      exact ClassDecl.liesIn_of_assemble_eq_error hassemble

/-- Methods that a compiler made do not fail. -/
theorem failure_visitMethod_of_synthetic (hs : m.isSynthetic = true) :
    (s.visitMethod settings owner m).failure = none := by
  rw [visitMethod, MethodDecl.classify_eq_iff.mpr (.ignored hs)]

/-- Whether and how a visit fails depends on the fixtures so far, and on where the class locates
errors. -/
theorem failure_visitMethod_congr (hlocate : owner'.locate = owner.locate)
    (hfixtures : t.fixtures = s.fixtures) :
    (t.visitMethod settings owner' m).failure = (s.visitMethod settings owner m).failure := by
  unfold visitMethod
  cases m.classify with
  | error refusal => simp only [ClassDecl.errorAt, hlocate]
  | ok verdict =>
      cases verdict with
      | ignored | helper => rfl
      | fixture r =>
          dsimp only [addFixture]
          rw [hfixtures]
          cases s.fixtures.get? r <;> cases settings.duplicates <;>
            simp only [ClassDecl.errorAt, hlocate]
      | feature =>
          dsimp only [addFeature, ClassDecl.assemble]
          cases m.assemble <;> simp only [hlocate]

/-- What a method adds to the fixtures depends on the fixtures so far only. -/
theorem fixtures_after_congr (m : MethodDecl) (hfixtures : t.fixtures = s.fixtures) :
    (t.after m).fixtures = (s.after m).fixtures := by
  cases m.standing with
  | synthetic hs => rw [t.after_of_synthetic hs, s.after_of_synthetic hs, hfixtures]
  | fixture r hr => rw [t.after_of_fixture hr, s.after_of_fixture hr, hfixtures]
  | member hm =>
      rw [t.after_of_member hm, s.after_of_member hm]
      exact hfixtures

/-! ## Many visits -/

/-- The visits of two rows of methods fail as those of the first row do, or else as those of the
second do from the state after it. -/
theorem failure_visitMethods_append :
    (s.visitMethods settings owner (ms ++ later)).failure =
      (s.visitMethods settings owner ms).failure.or
        ((ms.foldl after s).visitMethods settings owner later).failure := by
  induction ms generalizing s with
  | nil => rfl
  | cons m ms ih =>
      rw [List.cons_append, failure_visitMethods_cons, ih, failure_visitMethods_cons,
        Option.or_assoc, List.foldl_cons]

/-- Methods that a compiler made have no say in a failure. -/
theorem failure_visitMethods_written :
    (s.visitMethods settings owner (ms.filter (!·.isSynthetic))).failure =
      (s.visitMethods settings owner ms).failure := by
  induction ms generalizing s with
  | nil => rfl
  | cons m ms ih =>
      cases hs : m.isSynthetic with
      | true =>
          rw [List.filter_cons_of_neg (by simp [hs]), ih, failure_visitMethods_cons,
            failure_visitMethod_of_synthetic hs, Option.none_or, s.after_of_synthetic hs]
      | false =>
          rw [List.filter_cons_of_pos (by simp [hs]), failure_visitMethods_cons, ih,
            failure_visitMethods_cons]

/-- Whether and how visits fail depends on the fixtures so far, and on where the class locates
errors. -/
theorem failure_visitMethods_congr (hlocate : owner'.locate = owner.locate)
    (hfixtures : t.fixtures = s.fixtures) :
    (t.visitMethods settings owner' ms).failure = (s.visitMethods settings owner ms).failure := by
  induction ms generalizing s t with
  | nil => rfl
  | cons m ms ih =>
      rw [failure_visitMethods_cons, failure_visitMethods_cons,
        failure_visitMethod_congr hlocate hfixtures, ih (fixtures_after_congr m hfixtures)]

/-- Visits that fail do so at one method, and the visits of those before it go well. -/
theorem exists_first_failure (h : (s.visitMethods settings owner ms).failure = some e) :
    ∃ before m after, ms = before ++ m :: after ∧
      (s.visitMethods settings owner before).failure = none ∧
      ((before.foldl BuildState.after s).visitMethod settings owner m).failure = some e := by
  induction ms generalizing s with
  | nil => cases h
  | cons m ms ih =>
      cases hm : (s.visitMethod settings owner m).failure with
      | some e' =>
          rw [failure_visitMethods_cons, hm, Option.some_or] at h
          exact ⟨[], m, ms, rfl, rfl, hm.trans h⟩
      | none =>
          rw [failure_visitMethods_cons, hm, Option.none_or] at h
          obtain ⟨before, m', after, hms, hbefore, hm'⟩ := ih h
          refine ⟨m :: before, m', after, congrArg (m :: ·) hms, ?_, hm'⟩
          rw [failure_visitMethods_cons, hm, hbefore, Option.none_or]

end BuildState

namespace ClassDecl

variable {c c' : ClassDecl} {settings : Settings} {spec : Specification} {e : ParseError}

/-! ## The whole class -/

/-- The methods that the user wrote. -/
def written (c : ClassDecl) : List MethodDecl := c.methods.filter (!·.isSynthetic)

/-- The class with its first methods only. -/
def upTo (c : ClassDecl) (k : Nat) : ClassDecl := { c with methods := c.methods.take k }

/-- Fields bring no fixtures. -/
theorem fixtures_fieldsVisited (c : ClassDecl) (settings : Settings) :
    (c.fieldsVisited settings).fixtures = {} := by
  rw [fieldsVisited, BuildState.visitFields_fst]

/-- A class is refused as the methods that the user wrote are, one after another. -/
theorem specification_eq_error_iff_written :
    c.specification settings = .error e ↔
      (BuildState.visitMethods settings c c.written {}).failure = some e := by
  have hvisits :
      ((c.fieldsVisited settings).visitMethods settings c c.methods).failure =
        (BuildState.visitMethods settings c c.methods {}).failure :=
    BuildState.failure_visitMethods_congr rfl (c.fixtures_fieldsVisited settings)
  rw [specification_eq_error_iff, hvisits, written, BuildState.failure_visitMethods_written]

/-- An error stays when what the user wrote is continued, in a class that locates errors in the same
way. -/
theorem specification_eq_error_of_locate (h : c.specification settings = .error e)
    (hlocate : c'.locate = c.locate) (hwritten : c.written <+: c'.written) :
    c'.specification settings = .error e := by
  rw [specification_eq_error_iff_written] at h ⊢
  obtain ⟨rest, hrest⟩ := hwritten
  have hvisits : (BuildState.visitMethods settings c' c.written {}).failure = some e :=
    (BuildState.failure_visitMethods_congr hlocate rfl).trans h
  rw [← hrest, BuildState.failure_visitMethods_append, hvisits, Option.some_or]

/-- An error stays when what the user wrote is continued, whatever else of the class is changed but
its name and its file. -/
theorem specification_eq_error_of_isPrefix (h : c.specification settings = .error e)
    (hname : c'.name = c.name) (hsource : c'.sourceFile = c.sourceFile)
    (hwritten : c.written <+: c'.written) : c'.specification settings = .error e :=
  specification_eq_error_of_locate h (locate_congr hname hsource) hwritten

/-- What the user wrote up to a method is continued up to every later one. -/
theorem written_upTo_isPrefix (c : ClassDecl) {j k : Nat} (h : j ≤ k) :
    (c.upTo j).written <+: (c.upTo k).written := by
  have htake : c.methods.take j <+: c.methods.take k := List.take_prefix_take_left h
  exact htake.filter _

/-- Up to its method at `k` the class builds, and with that method it is refused. -/
def StopsAt (c : ClassDecl) (settings : Settings) (k : Nat) : Prop :=
  (∃ spec, (c.upTo k).specification settings = .ok spec) ∧
    ∃ e, (c.upTo (k + 1)).specification settings = .error e

/-- A class stops once at most: up to a later place it is refused already, and up to an earlier one
it still builds. -/
theorem StopsAt.unique {j k : Nat} (hj : c.StopsAt settings j) (hk : c.StopsAt settings k) :
    j = k := by
  have notBefore : ∀ {j k : Nat}, c.StopsAt settings j → c.StopsAt settings k → ¬j < k := by
    rintro j k ⟨-, e, hj⟩ ⟨⟨spec, hk⟩, -⟩ hlt
    have hrefused : (c.upTo k).specification settings = .error e :=
      specification_eq_error_of_isPrefix hj rfl rfl (c.written_upTo_isPrefix hlt)
    rw [hk] at hrefused
    cases hrefused
  rcases Nat.lt_trichotomy j k with hlt | heq | hgt
  · exact absurd hlt (notBefore hj hk)
  · exact heq
  · exact absurd hgt (notBefore hk hj)

/-- Up to a place the visits of the methods fail as they do in the whole class. -/
theorem failure_visitMethods_upTo (c : ClassDecl) (settings : Settings) (k : Nat) :
    (((c.upTo k).fieldsVisited settings).visitMethods settings (c.upTo k)
        (c.upTo k).methods).failure =
      ((c.fieldsVisited settings).visitMethods settings c (c.methods.take k)).failure :=
  BuildState.failure_visitMethods_congr rfl
    ((fixtures_fieldsVisited _ _).trans (fixtures_fieldsVisited _ _).symm)

/-- A class is refused with an error at one of its methods, the one at `k`. -/
structure RefusedAt (c : ClassDecl) (settings : Settings) (e : ParseError) (k : Nat)
    (m : MethodDecl) : Prop where
  method : c.methods[k]? = some m
  /-- The class stops at this method and at no other one. -/
  stops (j : Nat) : c.StopsAt settings j ↔ j = k
  /-- With the methods up to this one the error is the same. -/
  upTo : (c.upTo (k + 1)).specification settings = .error e
  /-- So it is whatever follows them, whatever methods a compiler made, and whatever the fields and
  properties are. -/
  continued (c' : ClassDecl) : c'.name = c.name → c'.sourceFile = c.sourceFile →
    (c.upTo (k + 1)).written <+: c'.written → c'.specification settings = .error e
  place : e.LiesIn c m

/-- A class with a stimulus that no outcome answers, and a misspelled fixture after it. -/
def unansweredSpec : ClassDecl where
  name := "UnansweredSpec"
  sourceFile := "src//UnansweredSpec.groovy"
  fields := [{ name := "stack" }]
  methods :=
    [{ name := "setup", statements := [{}] },
      { name := "UnansweredSpec", isSynthetic := true, isConstructor := true },
      { name := "pushing", statements := [{}, { label := "when", position := ⟨7, 9⟩ }] },
      { name := "Setup" }]

end ClassDecl

end Scenario
