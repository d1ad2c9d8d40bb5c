import Scenario.Declaration.Decoder
import Scenario.Declaration.Encoder
import Scenario.Proofs.Loading.Documents
import Scenario.Proofs.Validation

/-! # Declarations written and read

Every node is read back from the mapping that holds its fields (`ClassDecl.readsBack`), so that a
document of the classes that have been loaded holds the same classes again, to whatever file it is
said to belong (`classesOfDocument_documentOf`), and loading it once more changes nothing
(`classesOfDocument_reload`). -/

namespace Scenario

open Checked Decoder

/-- An absent value is read back, and a present one if it is not written as null. -/
theorem Decoder.ReadsBack.optional {α : Type} {d : Decoder α} {write : α → Value}
    (h : ReadsBack d write) (hnull : ∀ a, write a ≠ .null) :
    ReadsBack (Decoder.optional d) fun o => .orNull (o.map write) := by
  intro o
  cases o with
  | none => rfl
  | some a =>
      have hread : Decoder.optional d (write a) = some <$> d (write a) := by
        unfold Decoder.optional
        split
        · exact absurd ‹_› (hnull a)
        · rfl
      dsimp only [Option.map_some, Value.orNull]
      rw [hread, h a]
      rfl

theorem readsBack_optionalText : ReadsBack (Decoder.optional text) fun o => .orNull (o.map .text) :=
  readsBack_text.optional nofun

/-! ## Nodes

The fields are read in the order of the decoder. Each is found under its name by computation, and
what is under it is read back by the lemma of its type. -/

theorem Position.readsBack : ReadsBack Position.decoder Position.toValue := by
  intro p
  unfold Position.decoder Position.toValue
  dsimp only [node, Value.ofFields, Value.exposed_map]
  rw [withDefault_of_field? (a := p.line) rfl (readsBack_int _),
    withDefault_of_field? (a := p.column) rfl (readsBack_int _)]
  rfl

theorem Statement.readsBack : ReadsBack Statement.decoder Statement.toValue := by
  intro s
  unfold Statement.decoder Statement.toValue
  dsimp only [node, Value.ofFields, Value.exposed_map]
  rw [withDefault_of_field? (a := s.label) rfl (readsBack_optionalText _),
    withDefault_of_field? (a := s.position) rfl (Position.readsBack _),
    withDefault_of_field? (a := s.literal) rfl (readsBack_optionalText _),
    withDefault_of_field? (a := s.expression) rfl (readsBack_any _)]
  rfl

theorem PropertyDecl.readsBack : ReadsBack PropertyDecl.decoder PropertyDecl.toValue := by
  intro p
  unfold PropertyDecl.decoder PropertyDecl.toValue
  dsimp only [node, Value.ofFields, Value.exposed_map]
  rw [required_of_field? (a := p.name) rfl (readsBack_text _),
    withDefault_of_field? (a := p.position) rfl (Position.readsBack _)]
  rfl

theorem FieldDecl.readsBack : ReadsBack FieldDecl.decoder FieldDecl.toValue := by
  intro f
  unfold FieldDecl.decoder FieldDecl.toValue
  dsimp only [node, Value.ofFields, Value.exposed_map]
  rw [required_of_field? (a := f.name) rfl (readsBack_text _),
    withDefault_of_field? (a := f.isStatic) rfl (readsBack_bool _),
    withDefault_of_field? (a := f.isSynthetic) rfl (readsBack_bool _),
    withDefault_of_field? (a := f.annotations) rfl (readsBack_text.list _),
    withDefault_of_field? (a := f.position) rfl (Position.readsBack _)]
  rfl

theorem MethodDecl.readsBack : ReadsBack MethodDecl.decoder MethodDecl.toValue := by
  intro m
  unfold MethodDecl.decoder MethodDecl.toValue
  dsimp only [node, Value.ofFields, Value.exposed_map]
  rw [required_of_field? (a := m.name) rfl (readsBack_text _),
    withDefault_of_field? (a := m.isStatic) rfl (readsBack_bool _),
    withDefault_of_field? (a := m.isSynthetic) rfl (readsBack_bool _),
    withDefault_of_field? (a := m.isConstructor) rfl (readsBack_bool _),
    withDefault_of_field? (a := m.statements) rfl (Statement.readsBack.list _),
    withDefault_of_field? (a := m.position) rfl (Position.readsBack _),
    withDefault_of_field? (a := m.endPosition) rfl (Position.readsBack.optional nofun _)]
  rfl

theorem ClassDecl.readsBack : ReadsBack ClassDecl.decoder ClassDecl.toValue := by
  intro c
  unfold ClassDecl.decoder ClassDecl.toValue ClassDecl.toFields
  dsimp only [node, Value.ofFields, Value.exposed_map]
  rw [required_of_field? (a := c.name) rfl (readsBack_text _),
    withDefault_of_field? (a := c.sourceFile) rfl (readsBack_optionalText _),
    withDefault_of_field? (a := c.fields) rfl (FieldDecl.readsBack.list _),
    withDefault_of_field? (a := c.properties) rfl (PropertyDecl.readsBack.list _),
    withDefault_of_field? (a := c.methods) rfl (MethodDecl.readsBack.list _),
    withDefault_of_field? (a := c.position) rfl (Position.readsBack _)]
  rfl

/-! ## Documents -/

/-- The document of classes: the list of their mappings. -/
def documentOf (cs : List ClassDecl) : Value := .list (cs.map ClassDecl.toValue)

theorem holds_documentOf (cs : List ClassDecl) :
    Holds (documentOf cs) (cs.map ClassDecl.toValue) := by
  refine ⟨_, .whole nofun, rfl, fun item hitem => ?_⟩
  obtain ⟨c, -, rfl⟩ := List.mem_map.mp hitem
  exact ⟨_, rfl⟩

/-- The mapping of a class gives it, since its source file is always there, if only as null. -/
theorem ClassDecl.loadsAlone_toValue (source : Path) (c : ClassDecl) :
    LoadsAlone source c.toValue c := by
  have hsource : withSource source (Value.named c.toFields) = Value.named c.toFields := rfl
  rw [loadsAlone_iff rfl, hsource]
  exact ClassDecl.readsBack c

/-- The classes of a document are read back, whatever file it belongs to. -/
theorem classesOfDocument_documentOf (cs : List ClassDecl) (source : Path) :
    classesOfDocument (documentOf cs) source = .ok cs := by
  rw [(holds_documentOf cs).classesOfDocument_eq_ok_iff, List.forall₂_map_left_iff,
    List.forall₂_same]
  exact fun c _ => c.loadsAlone_toValue source

/-- Loading is idempotent: any classes are read back from their document, and so whatever a document
gives in one file is given again by the document of its classes in another. -/
theorem classesOfDocument_reload (source source' : Path) :
    (∀ cs, classesOfDocument (documentOf cs) source' = .ok cs) ∧
    ∀ document, (classesOfDocument document source).bind
        (fun cs => classesOfDocument (documentOf cs) source') =
      classesOfDocument document source := by
  refine ⟨fun cs => classesOfDocument_documentOf cs source', fun document => ?_⟩
  cases classesOfDocument document source with
  | error e => rfl
  | ok cs => exact classesOfDocument_documentOf cs source'

end Scenario
