import Scenario.Declaration
import Scenario.Validation.Scalar

/-! # Reading declarations from values

Each kind of node names its fields, in the order in which their faults are listed, and the values
they have when they are left out. Other entries of a mapping are ignored. -/

namespace Scenario

open Checked Decoder

/-- A line and a column. -/
def Position.decoder : Decoder Position :=
  node "SourcePosition" fun es =>
    (Position.mk <$> withDefault es "line" int 1).ap (withDefault es "column" int 1)

/-- A statement. -/
def Statement.decoder : Decoder Statement :=
  node "StatementNode" fun es =>
    ((((Statement.mk <$> withDefault es "label" (optional text) none)
      ).ap (withDefault es "position" Position.decoder {})
      ).ap (withDefault es "literal" (optional text) none)
      ).ap (withDefault es "expression" any .null)

/-- A property. -/
def PropertyDecl.decoder : Decoder PropertyDecl :=
  node "PropertyNode" fun es =>
    (PropertyDecl.mk <$> required es "name" text).ap
      (withDefault es "position" Position.decoder {})

/-- A field. -/
def FieldDecl.decoder : Decoder FieldDecl :=
  node "FieldNode" fun es =>
    (((((FieldDecl.mk <$> required es "name" text)
      ).ap (withDefault es "is_static" bool false)
      ).ap (withDefault es "is_synthetic" bool false)
      ).ap (withDefault es "annotations" (list text) [])
      ).ap (withDefault es "position" Position.decoder {})

/-- A method. -/
def MethodDecl.decoder : Decoder MethodDecl :=
  node "MethodNode" fun es =>
    (((((((MethodDecl.mk <$> required es "name" text)
      ).ap (withDefault es "is_static" bool false)
      ).ap (withDefault es "is_synthetic" bool false)
      ).ap (withDefault es "is_constructor" bool false)
      ).ap (withDefault es "statements" (list Statement.decoder) [])
      ).ap (withDefault es "position" Position.decoder {})
      ).ap (withDefault es "end_position" (optional Position.decoder) none)

/-- A class. -/
def ClassDecl.decoder : Decoder ClassDecl :=
  node "ClassNode" fun es =>
    ((((((ClassDecl.mk <$> required es "name" text)
      ).ap (withDefault es "source_file" (optional text) none)
      ).ap (withDefault es "fields" (list FieldDecl.decoder) [])
      ).ap (withDefault es "properties" (list PropertyDecl.decoder) [])
      ).ap (withDefault es "methods" (list MethodDecl.decoder) [])
      ).ap (withDefault es "position" Position.decoder {})

end Scenario
