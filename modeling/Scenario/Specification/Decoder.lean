import Scenario.Specification
import Scenario.Declaration.Decoder

/-! # Reading specifications from values

The methods of a specification are told apart by their category; a fixture has a place of its own
for every role. -/

namespace Scenario

open Checked Decoder

/-- A block. -/
def Block.decoder : Decoder Block :=
  node "Block" fun es =>
    (((Block.mk <$> required es "kind" (choice (BlockKind.all.map (·.name)) BlockKind.ofName?))
      ).ap (withDefault es "descriptions" (tuple text) [])
      ).ap (withDefault es "statements" (tuple Statement.decoder) [])

/-- A data field. -/
def FieldSpec.decoder : Decoder FieldSpec :=
  node "FieldSpec" fun es =>
    (((((FieldSpec.mk <$> required es "name" text)
      ).ap (required es "ordinal" int)
      ).ap (withDefault es "shared" bool false)
      ).ap (withDefault es "property_name" (optional text) none)
      ).ap (withDefault es "position" Position.decoder {})

/-- What all methods have. -/
def MethodSpec.read (es : List (Value × Value)) : Checked MethodSpec :=
  (((MethodSpec.mk <$> required es "name" text)
    ).ap (withDefault es "blocks" (list Block.decoder) [])
    ).ap (withDefault es "position" Position.decoder {})

/-- A fixture. -/
def Fixture.decoder : Decoder Fixture :=
  node "FixtureMethod" fun es =>
    (((fun method _ role => Fixture.mk role method) <$> MethodSpec.read es
      ).ap (withDefault es "category" (literal "fixture") ())
      ).ap (required es "role" (choice (Role.all.map (·.name)) Role.ofName?))

/-- A feature or a helper; faults in it are seen under its category. -/
def Member.decoder (v : Value) : Checked Member :=
  match v.exposed with
  | .map es =>
    match Value.field? "category" es with
    | none => fail (.tagNotFound "category")
    | some (.text "feature") =>
      under (.field "feature") <|
        ((fun method ordinal => Member.feature ordinal method) <$> MethodSpec.read es).ap
          (required es "ordinal" int)
    | some (.text "helper") => under (.field "helper") (Member.helper <$> MethodSpec.read es)
    | some v => fail (.tagInvalid "category" v.plain ["feature", "helper"])
  | _ => fail .attributesType

/-- The four places for fixtures. -/
def Fixtures.read (es : List (Value × Value)) : Checked Fixtures :=
  ((((Fixtures.mk <$> withDefault es "setup" (optional Fixture.decoder) none)
    ).ap (withDefault es "cleanup" (optional Fixture.decoder) none)
    ).ap (withDefault es "setup_spec" (optional Fixture.decoder) none)
    ).ap (withDefault es "cleanup_spec" (optional Fixture.decoder) none)

/-- A specification. -/
def Specification.decoder : Decoder Specification :=
  node "Specification" fun es =>
    ((((((Specification.mk <$> required es "name" text)
      ).ap (withDefault es "source_file" (optional text) none)
      ).ap (withDefault es "position" Position.decoder {})
      ).ap (withDefault es "fields" (list FieldSpec.decoder) [])
      ).ap (withDefault es "methods" (list Member.decoder) [])
      ).ap (Fixtures.read es)

end Scenario
