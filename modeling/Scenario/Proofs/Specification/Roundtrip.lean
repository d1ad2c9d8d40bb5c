import Scenario.Proofs.Classification
import Scenario.Proofs.Declaration.Roundtrip
import Scenario.Specification.Decoder
import Scenario.Specification.Encoder

/-! # Specifications written and read

The parts of a specification are read back from the mappings that hold their fields: kinds and roles
by their names, members by their categories, fixtures from the places of their roles. So every
specification is read back whole (`Specification.decoder_toValue`), be it one that is built or
not. -/

namespace Scenario

open Checked Decoder

namespace Decoder

variable {α : Type} {d : Decoder α} {write : α → Value}

/-- A list that does not change is read back if its items are. -/
theorem ReadsBack.tuple (h : ReadsBack d write) :
    ReadsBack (tuple d) fun as => .list (as.map write) :=
  h.items 0

/-- One of several named values is read back if it is found under its name. -/
theorem readsBack_choice {names : List String} {ofName? : String → Option α} {name : α → String}
    (h : ∀ a, ofName? (name a) = some a) :
    ReadsBack (choice names ofName?) fun a => .text (name a) := by
  intro a
  simp only [choice, h a]

end Decoder

/-! ## Blocks and fields -/

/-- A kind is found under its name. -/
theorem BlockKind.ofName?_name (k : BlockKind) : ofName? k.name = some k := by
  cases k <;> rfl

theorem Block.readsBack : ReadsBack Block.decoder Block.toValue := by
  intro b
  unfold Block.decoder Block.toValue
  dsimp only [node, Value.ofFields, Value.exposed_map]
  rw [required_of_field? (a := b.kind) rfl (readsBack_choice BlockKind.ofName?_name _),
    withDefault_of_field? (a := b.descriptions) rfl (readsBack_text.tuple _),
    withDefault_of_field? (a := b.statements) rfl (Statement.readsBack.tuple _)]
  rfl

theorem FieldSpec.readsBack : ReadsBack FieldSpec.decoder FieldSpec.toValue := by
  intro f
  unfold FieldSpec.decoder FieldSpec.toValue
  dsimp only [node, Value.ofFields, Value.exposed_map]
  rw [required_of_field? (a := f.name) rfl (readsBack_text _),
    required_of_field? (a := f.ordinal) rfl (readsBack_int _),
    withDefault_of_field? (a := f.shared) rfl (readsBack_bool _),
    withDefault_of_field? (a := f.propertyName) rfl (readsBack_optionalText _),
    withDefault_of_field? (a := f.position) rfl (Position.readsBack _)]
  rfl

/-! ## Methods -/

/-- What all methods have is read back, whatever else is written of a method. -/
theorem MethodSpec.read_toFields (m : MethodSpec) (category : String)
    (others : List (String × Value)) :
    MethodSpec.read (Value.named (m.toFields category others)) = .ok m := by
  unfold MethodSpec.read
  rw [required_of_field? (a := m.name) rfl (readsBack_text _),
    withDefault_of_field? (a := m.blocks) rfl (Block.readsBack.list _),
    withDefault_of_field? (a := m.position) rfl (Position.readsBack _)]
  rfl

theorem Fixture.readsBack : ReadsBack Fixture.decoder Fixture.toValue := by
  intro f
  unfold Fixture.decoder Fixture.toValue
  dsimp only [node, Value.ofFields, Value.exposed_map]
  rw [MethodSpec.read_toFields, withDefault_of_field? (a := ()) rfl rfl,
    required_of_field? (a := f.role) rfl
      (readsBack_choice (fun r => Role.ofName?_eq_some_iff.mpr rfl) _)]
  rfl

/-- A member is read back as what it is, by its category. -/
theorem Member.readsBack : ReadsBack Member.decoder Member.toValue := by
  intro d
  cases d with
  | feature ordinal m =>
      show under (.field "feature") (ap (_ <$> MethodSpec.read _) _) = _
      rw [MethodSpec.read_toFields, required_of_field? (a := ordinal) rfl (readsBack_int _)]
      rfl
  | helper m =>
      show under (.field "helper") (_ <$> MethodSpec.read _) = _
      rw [MethodSpec.read_toFields]
      rfl

/-! ## Specifications -/

theorem Fixtures.readsBack_place (fs : Fixtures) (r : Role) :
    Decoder.optional Fixture.decoder (fs.placeToValue r) = .ok (fs.get? r) :=
  Fixture.readsBack.optional nofun _

/-- Every specification is read back from its mapping, with every one of its parts in its place. -/
theorem Specification.decoder_toValue (s : Specification) :
    Specification.decoder s.toValue = .ok s := by
  unfold Specification.decoder Specification.toValue Fixtures.read
  dsimp only [node, Value.ofFields, Value.exposed_map]
  rw [required_of_field? (a := s.name) rfl (readsBack_text _),
    withDefault_of_field? (a := s.sourceFile) rfl (readsBack_optionalText _),
    withDefault_of_field? (a := s.position) rfl (Position.readsBack _),
    withDefault_of_field? (a := s.fields) rfl (FieldSpec.readsBack.list _),
    withDefault_of_field? (a := s.methods) rfl (Member.readsBack.list _),
    withDefault_of_field? (a := s.fixtures.setup) rfl (s.fixtures.readsBack_place .setup),
    withDefault_of_field? (a := s.fixtures.cleanup) rfl (s.fixtures.readsBack_place .cleanup),
    withDefault_of_field? (a := s.fixtures.setupSpec) rfl (s.fixtures.readsBack_place .setupSpec),
    withDefault_of_field? (a := s.fixtures.cleanupSpec) rfl
      (s.fixtures.readsBack_place .cleanupSpec)]
  rfl

end Scenario
