import Scenario.Build
import Mathlib.Data.List.Basic

/-! # The fields of a specification

Which fields are data is said by `FieldDecl.IsData`, and what is told of a field by
`FieldDecl.asField`. Visited one after another, the data fields are numbered in the order of their
declarations, and nothing else changes (`BuildState.visitFields_fst`). -/

namespace Scenario

/-- Whether a property with a name is declared. -/
def ClassDecl.HasProperty (c : ClassDecl) (name : String) : Prop :=
  ∃ p ∈ c.properties, p.name = name

instance (c : ClassDecl) (name : String) : Decidable (c.HasProperty name) :=
  inferInstanceAs (Decidable (∃ p ∈ c.properties, p.name = name))

/-- The name of the property that is found for a name is that name. -/
theorem ClassDecl.map_name_property? (c : ClassDecl) (name : String) :
    (c.property? name).map (·.name) = if c.HasProperty name then some name else none := by
  unfold property?
  cases h : c.properties.find? (·.name == name) with
  | none =>
      have hno : ¬c.HasProperty name := by
        rintro ⟨p, hp, hname⟩
        exact List.find?_eq_none.mp h p hp (beq_iff_eq.mpr hname)
      rw [if_neg hno]
      rfl
  | some p =>
      have hname := List.find?_some h
      have hyes : c.HasProperty name := ⟨p, List.mem_of_find?_eq_some h, beq_iff_eq.mp hname⟩
      rw [if_pos hyes, Option.map_some, beq_iff_eq.mp hname]

namespace FieldDecl

variable {f : FieldDecl} {settings : Settings} {owner : ClassDecl}

/-- A field is data when its name is no internal one and it is a plain member of the class or has a
property of its name. -/
def IsData (f : FieldDecl) (settings : Settings) (owner : ClassDecl) : Prop :=
  ¬settings.internalPrefix.toList <+: f.name.toList ∧
    (f.isStatic = false ∧ f.isSynthetic = false ∨ owner.HasProperty f.name)

instance (f : FieldDecl) (settings : Settings) (owner : ClassDecl) :
    Decidable (f.IsData settings owner) :=
  inferInstanceAs (Decidable (_ ∧ _))

/-- What is told of a data field with an ordinal. -/
def asField (f : FieldDecl) (settings : Settings) (owner : ClassDecl) (ordinal : Nat) :
    FieldSpec where
  name := f.name
  ordinal := ordinal
  shared := f.isAnnotatedWith settings.sharedMarker
  propertyName := if owner.HasProperty f.name then some f.name else none
  position := f.position

/-- What the classification of a field says. -/
theorem dataField?_eq :
    f.dataField? settings owner =
      if f.IsData settings owner then
        some
          { shared := f.isAnnotatedWith settings.sharedMarker
            propertyName := if owner.HasProperty f.name then some f.name else none }
      else none := by
  have hnone : (owner.property? f.name).isNone = !decide (owner.HasProperty f.name) := by
    have hmap := congrArg Option.isNone (owner.map_name_property? f.name)
    rw [Option.isNone_map] at hmap
    rw [hmap]
    by_cases h : owner.HasProperty f.name <;> simp [h]
  have hplain : ((owner.property? f.name).isNone && (f.isStatic || f.isSynthetic)) = true ↔
      ¬(f.isStatic = false ∧ f.isSynthetic = false ∨ owner.HasProperty f.name) := by
    rw [hnone]
    cases f.isStatic <;> cases f.isSynthetic <;> simp
  unfold dataField?
  by_cases hinternal : settings.internalPrefix.toList <+: f.name.toList
  · have hdata : ¬f.IsData settings owner := fun hdata => hdata.1 hinternal
    rw [if_pos (List.isPrefixOf_iff_prefix.mpr hinternal), if_neg hdata]
  · rw [if_neg (mt List.isPrefixOf_iff_prefix.mp hinternal)]
    dsimp only
    rw [owner.map_name_property? f.name]
    by_cases h : f.isStatic = false ∧ f.isSynthetic = false ∨ owner.HasProperty f.name
    · have hdata : f.IsData settings owner := ⟨hinternal, h⟩
      rw [if_neg (mt hplain.mp (not_not_intro h)), if_pos hdata]
    · have hdata : ¬f.IsData settings owner := fun hdata => h hdata.2
      rw [if_pos (hplain.mpr h), if_neg hdata]

end FieldDecl

namespace BuildState

variable {settings : Settings} {owner : ClassDecl} {s : BuildState}

/-- The visit of a field adds what is told of it, if it is data. -/
theorem state_visitField (f : FieldDecl) (s : BuildState) :
    (s.visitField settings owner f).state =
      if f.IsData settings owner then
        { s with
          fieldCount := s.fieldCount + 1
          fields := s.fields ++ [f.asField settings owner s.fieldCount] }
      else s := by
  unfold visitField
  rw [FieldDecl.dataField?_eq]
  by_cases h : f.IsData settings owner
  · simp only [if_pos h]
    rfl
  · simp only [if_neg h]

/-- The visit of a field never fails. -/
theorem failure_visitField (f : FieldDecl) (s : BuildState) :
    (s.visitField settings owner f).failure = none := by
  unfold visitField
  cases f.dataField? settings owner <;> rfl

/-- Fields visited one after another are filtered and numbered. -/
theorem visitFields_fst (fs : List FieldDecl) (s : BuildState) :
    (s.visitFields settings owner fs).1 =
      { s with
        fieldCount := s.fieldCount + fs.countP (·.IsData settings owner)
        fields := s.fields ++ ((fs.filter (·.IsData settings owner)).zipIdx s.fieldCount).map
          fun (f, i) => f.asField settings owner i } := by
  induction fs generalizing s with
  | nil => simp [visitFields]
  | cons f fs ih =>
      rw [visitFields, ih, state_visitField]
      by_cases h : f.IsData settings owner
      · simp [h]
        omega
      · simp [h]

end BuildState

end Scenario
