import Scenario.Declaration.Encoder
import Scenario.Specification

/-! # Specifications as values

Every part is written as a mapping that holds all its fields under their names. Kinds of blocks and
roles are written as their names, every method tells its category, and null stands in the place of a
role that is not filled. -/

namespace Scenario

/-- A block as a value. -/
def Block.toValue (b : Block) : Value :=
  .ofFields
    [("kind", .text b.kind.name), ("descriptions", .list (b.descriptions.map .text)),
      ("statements", .list (b.statements.map Statement.toValue))]

/-- A data field as a value. -/
def FieldSpec.toValue (f : FieldSpec) : Value :=
  .ofFields
    [("name", .text f.name), ("ordinal", .int f.ordinal), ("shared", .bool f.shared),
      ("property_name", .orNull (f.propertyName.map .text)), ("position", f.position.toValue)]

/-- The fields of a method of a category, some of which only this category has. -/
def MethodSpec.toFields (m : MethodSpec) (category : String) (others : List (String × Value)) :
    List (String × Value) :=
  ("name", .text m.name) :: ("blocks", .list (m.blocks.map Block.toValue)) ::
    ("position", m.position.toValue) :: ("category", .text category) :: others

/-- A fixture as a value. -/
def Fixture.toValue (f : Fixture) : Value :=
  .ofFields (f.method.toFields "fixture" [("role", .text f.role.name)])

/-- A feature or a helper as a value. -/
def Member.toValue : Member → Value
  | .feature ordinal m => .ofFields (m.toFields "feature" [("ordinal", .int ordinal)])
  | .helper m => .ofFields (m.toFields "helper" [])

/-- What stands in the place of a role, as a value. -/
def Fixtures.placeToValue (fs : Fixtures) (r : Role) : Value :=
  .orNull ((fs.get? r).map Fixture.toValue)

/-- A specification as a value. -/
def Specification.toValue (s : Specification) : Value :=
  .ofFields
    [("name", .text s.name), ("source_file", .orNull (s.sourceFile.map .text)),
      ("position", s.position.toValue), ("fields", .list (s.fields.map FieldSpec.toValue)),
      ("methods", .list (s.methods.map Member.toValue)), ("setup", s.fixtures.placeToValue .setup),
      ("cleanup", s.fixtures.placeToValue .cleanup),
      ("setup_spec", s.fixtures.placeToValue .setupSpec),
      ("cleanup_spec", s.fixtures.placeToValue .cleanupSpec)]

end Scenario
