import Scenario.Proofs.Build.FirstFailure
import Scenario.Proofs.Build.Members

/-! # What the settings decide

Of the settings only the policy on duplicates has a say in the visit of a method
(`BuildState.visitMethods_settings`). So whether a class builds, what it is refused with and what
its specification tells of methods do not depend on the settings for fields
(`ClassDecl.sameButFields`).

Of these, the marker decides what is shared, and the mark of internal names decides which fields are
data: with a shorter mark more names are internal, so that some of the fields are left out and those
after them move up (`FieldSpec.Thinned`). `ClassDecl.settings_act_on_fields` puts this together. -/

namespace Scenario

/-! ## Methods -/

namespace BuildState

variable {settings settings' : Settings} {owner : ClassDecl} {s : BuildState}

/-- The visits of methods are the same under the same policy on duplicates. -/
theorem visitMethods_settings (h : settings'.duplicates = settings.duplicates)
    (ms : List MethodDecl) (s : BuildState) :
    s.visitMethods settings' owner ms = s.visitMethods settings owner ms := by
  induction ms generalizing s with
  | nil => rfl
  | cons m ms ih =>
      have hvisit : s.visitMethod settings' owner m = s.visitMethod settings owner m := by
        simp only [visitMethod, addFixture, h]
      simp only [visitMethods, hvisit, ih]

end BuildState

/-- Results that agree in everything but the fields of the specification. -/
inductive SameButFields :
    Except ParseError Specification → Except ParseError Specification → Prop where
  /-- The error is the same. -/
  | refused (e : ParseError) : SameButFields (.error e) (.error e)
  /-- The methods and fixtures are the same, and so are the name, the file and the position. -/
  | built (spec : Specification) (fields : List FieldSpec) :
    SameButFields (.ok spec) (.ok { spec with fields })

/-! ## Fields -/

namespace FieldSpec

/-- A field without the flag that says whether it is shared. -/
def unmarked (f : FieldSpec) : FieldSpec := { f with shared := false }

/-- A field without its ordinal. -/
def unnumbered (f : FieldSpec) : FieldSpec := { f with ordinal := 0 }

/-- The same field under a number that is not greater. -/
structure MovedUp (f f' : FieldSpec) : Prop where
  same : f.unnumbered = f'.unnumbered
  le : f.ordinal ≤ f'.ordinal

/-- Whether the name of a field begins with a mark. -/
def IsMarkedBy (f : FieldSpec) (mark : String) : Prop := mark.toList <+: f.name.toList

instance (f : FieldSpec) (mark : String) : Decidable (f.IsMarkedBy mark) :=
  inferInstanceAs (Decidable (_ <+: _))

/-- Of some fields those are left whose names do not begin with a mark, in their order, and their
numbers do not grow. -/
structure Thinned (mark : String) (fs fs' : List FieldSpec) : Prop where
  /-- What is left of the fields is among them, in the same order. -/
  sublist : (fs.map unnumbered).Sublist (fs'.map unnumbered)
  /-- Exactly those fields are left out whose names begin with the mark. -/
  left : fs.map unnumbered = (fs'.map unnumbered).filter (¬·.IsMarkedBy mark)
  /-- Field by field the numbers do not grow. -/
  numbers : List.Forall₂ MovedUp fs (fs'.filter (¬·.IsMarkedBy mark))

/-- Fields that are moved up are the same but for their ordinals. -/
theorem map_unnumbered_of_movedUp {fs fs' : List FieldSpec} (h : List.Forall₂ MovedUp fs fs') :
    fs.map unnumbered = fs'.map unnumbered := by
  induction h with
  | nil => rfl
  | cons hf _ ih => rw [List.map_cons, List.map_cons, hf.same, ih]

/-- Fields are thinned if those without the mark are only moved up. -/
theorem thinned_of_movedUp {mark : String} {fs fs' : List FieldSpec}
    (h : List.Forall₂ MovedUp fs (fs'.filter (¬·.IsMarkedBy mark))) : Thinned mark fs fs' := by
  have hleft : fs.map unnumbered = (fs'.map unnumbered).filter (¬·.IsMarkedBy mark) := by
    rw [map_unnumbered_of_movedUp h, List.filter_map]
    rfl
  exact ⟨hleft ▸ List.filter_sublist, hleft, h⟩

end FieldSpec

namespace FieldDecl

variable {f : FieldDecl} {fs : List FieldDecl} {settings settings' : Settings} {owner : ClassDecl}

/-- With a shorter mark of internal names, the data fields are those of the longer one whose names
do not begin with the shorter. -/
theorem isData_iff_of_isPrefix
    (h : settings.internalPrefix.toList <+: settings'.internalPrefix.toList) :
    f.IsData settings owner ↔
      f.IsData settings' owner ∧ ¬settings.internalPrefix.toList <+: f.name.toList := by
  constructor
  · rintro ⟨hname, hplain⟩
    exact ⟨⟨fun hname' => hname (h.trans hname'), hplain⟩, hname⟩
  · rintro ⟨⟨-, hplain⟩, hname⟩
    exact ⟨hname, hplain⟩

/-- Where the marker is the same, fields are told alike but for their ordinals. -/
theorem movedUp_asField (h : settings'.sharedMarker = settings.sharedMarker) (f : FieldDecl)
    {i j : Nat} (hij : i ≤ j) :
    (f.asField settings owner i).MovedUp (f.asField settings' owner j) := by
  constructor
  · simp only [asField, FieldSpec.unnumbered, h]
  · exact Int.ofNat_le.mpr hij

/-- Of numbered fields, those without the mark are moved up when they are numbered by themselves. -/
theorem forall₂_movedUp_numbered (h : settings'.sharedMarker = settings.sharedMarker)
    (mark : String) {i j : Nat} (hij : i ≤ j) :
    List.Forall₂ FieldSpec.MovedUp
      (((fs.filter fun f => ¬mark.toList <+: f.name.toList).zipIdx i).map
        fun (f, i) => f.asField settings owner i)
      (((fs.zipIdx j).map fun (f, i) => f.asField settings' owner i).filter
        (¬·.IsMarkedBy mark)) := by
  induction fs generalizing i j with
  | nil => exact .nil
  | cons f fs ih =>
      have hmark : (f.asField settings' owner j).IsMarkedBy mark ↔
          mark.toList <+: f.name.toList := Iff.rfl
      rw [List.zipIdx_cons, List.map_cons]
      by_cases hf : mark.toList <+: f.name.toList
      · rw [List.filter_cons_of_neg (by simp [hf]),
          List.filter_cons_of_neg (by simp [hmark, hf])]
        exact ih (Nat.le_succ_of_le hij)
      · rw [List.filter_cons_of_pos (by simp [hf]),
          List.filter_cons_of_pos (by simp [hmark, hf]), List.zipIdx_cons, List.map_cons]
        exact .cons (movedUp_asField h f hij) (ih (Nat.succ_le_succ hij))

end FieldDecl

namespace ClassDecl

variable {c : ClassDecl} {settings settings' : Settings} {spec spec' : Specification}
  {e : ParseError}

/-! ## A whole class -/

/-- What a class is refused with depends on the policy on duplicates only. -/
theorem specification_eq_error_iff_of_duplicates
    (h : settings'.duplicates = settings.duplicates) :
    c.specification settings' = .error e ↔ c.specification settings = .error e := by
  rw [specification_eq_error_iff_written, specification_eq_error_iff_written,
    BuildState.visitMethods_settings h]

/-- The settings for fields have a say in the fields only. -/
theorem sameButFields (h : settings'.duplicates = settings.duplicates) :
    SameButFields (c.specification settings) (c.specification settings') := by
  cases hspec : c.specification settings with
  | error e =>
      rw [(specification_eq_error_iff_of_duplicates h).mpr hspec]
      exact .refused e
  | ok spec =>
      cases hspec' : c.specification settings' with
      | error e =>
          rw [(specification_eq_error_iff_of_duplicates h).mp hspec'] at hspec
          cases hspec
      | ok spec' =>
          rw [specification_eq_account hspec, specification_eq_account hspec']
          exact .built _ _

/-- The fields of a specification are the data fields of its class, numbered. -/
theorem fields_eq_zipIdx (h : c.specification settings = .ok spec) :
    spec.fields = ((c.fields.filter (·.IsData settings c)).zipIdx 0).map
      fun (f, i) => f.asField settings c i := by
  rw [fields_eq_mapIdx h, List.mapIdx_eq_zipIdx_map]

/-- Where the internal names are the same, the fields are, but for what is shared. -/
theorem map_unmarked_fields (hmark : settings'.internalPrefix = settings.internalPrefix)
    (hspec : c.specification settings = .ok spec)
    (hspec' : c.specification settings' = .ok spec') :
    spec.fields.map FieldSpec.unmarked = spec'.fields.map FieldSpec.unmarked := by
  rw [fields_eq_zipIdx hspec, fields_eq_zipIdx hspec', List.map_map, List.map_map]
  simp only [FieldDecl.IsData, hmark]
  rfl

/-- With a shorter mark of internal names, the fields are thinned. -/
theorem thinned_fields (hmarker : settings'.sharedMarker = settings.sharedMarker)
    (hmark : settings.internalPrefix.toList <+: settings'.internalPrefix.toList)
    (hspec : c.specification settings = .ok spec)
    (hspec' : c.specification settings' = .ok spec') :
    FieldSpec.Thinned settings.internalPrefix spec.fields spec'.fields := by
  have hdata : c.fields.filter (·.IsData settings c) =
      (c.fields.filter (·.IsData settings' c)).filter
        fun f => ¬settings.internalPrefix.toList <+: f.name.toList := by
    rw [List.filter_filter]
    refine List.filter_congr fun f _ => ?_
    rw [Bool.eq_iff_iff]
    simp [FieldDecl.isData_iff_of_isPrefix hmark, and_comm]
  apply FieldSpec.thinned_of_movedUp
  rw [fields_eq_zipIdx hspec, fields_eq_zipIdx hspec', hdata]
  exact FieldDecl.forall₂_movedUp_numbered hmarker settings.internalPrefix (Nat.le_refl 0)

/-- Settings with the same policy on duplicates act on the fields of a class only. -/
structure ActsOnFields (c : ClassDecl) (settings settings' : Settings) : Prop where
  outcome : SameButFields (c.specification settings) (c.specification settings')
  /-- The marker decides what is shared, and nothing else. -/
  marker : settings'.internalPrefix = settings.internalPrefix → ∀ spec spec',
    c.specification settings = .ok spec → c.specification settings' = .ok spec' →
      spec.fields.map FieldSpec.unmarked = spec'.fields.map FieldSpec.unmarked
  /-- A shorter mark of internal names leaves out the fields whose names begin with it. -/
  internal : settings'.sharedMarker = settings.sharedMarker →
    settings.internalPrefix.toList <+: settings'.internalPrefix.toList → ∀ spec spec',
      c.specification settings = .ok spec → c.specification settings' = .ok spec' →
        FieldSpec.Thinned settings.internalPrefix spec.fields spec'.fields

/-- A class with names that begin with marks of different lengths. -/
def markedSpec : ClassDecl where
  name := "MarkedSpec"
  fields :=
    [{ name := "__cache" }, { name := "_id", annotations := ["Shared"] }, { name := "stack" },
      { name := "_log", isStatic := true }, { name := "count", annotations := ["Kept"] }]
  properties := [{ name := "_log" }]
  methods := [{ name := "setup" }, { name := "popping", statements := [{ label := "expect" }] }]

end ClassDecl

end Scenario
