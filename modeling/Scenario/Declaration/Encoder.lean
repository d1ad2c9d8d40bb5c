import Scenario.Declaration

/-! # Declarations as values

Every node is written as a mapping that holds all its fields under their names, in the order of
their declarations. What is absent is written as null, and an expression stands as it is. -/

namespace Scenario

/-- A value that may be absent. -/
def Value.orNull : Option Value → Value
  | none => .null
  | some v => v

/-- The entries of a mapping with names for keys. -/
def Value.named (fields : List (String × Value)) : List (Value × Value) :=
  fields.map fun (name, v) => (.text name, v)

/-- The mapping of fields under their names. -/
def Value.ofFields (fields : List (String × Value)) : Value := .map (named fields)

/-- A position as a value. -/
def Position.toValue (p : Position) : Value :=
  .ofFields [("line", .int p.line), ("column", .int p.column)]

/-- A statement as a value. -/
def Statement.toValue (s : Statement) : Value :=
  .ofFields
    [("label", .orNull (s.label.map .text)), ("position", s.position.toValue),
      ("literal", .orNull (s.literal.map .text)), ("expression", s.expression)]

/-- A property as a value. -/
def PropertyDecl.toValue (p : PropertyDecl) : Value :=
  .ofFields [("name", .text p.name), ("position", p.position.toValue)]

/-- A field as a value. -/
def FieldDecl.toValue (f : FieldDecl) : Value :=
  .ofFields
    [("name", .text f.name), ("is_static", .bool f.isStatic), ("is_synthetic", .bool f.isSynthetic),
      ("annotations", .list (f.annotations.map .text)), ("position", f.position.toValue)]

/-- A method as a value. -/
def MethodDecl.toValue (m : MethodDecl) : Value :=
  .ofFields
    [("name", .text m.name), ("is_static", .bool m.isStatic), ("is_synthetic", .bool m.isSynthetic),
      ("is_constructor", .bool m.isConstructor),
      ("statements", .list (m.statements.map Statement.toValue)),
      ("position", m.position.toValue),
      ("end_position", .orNull (m.endPosition.map Position.toValue))]

/-- The fields of a class, which are the entries of its mapping. -/
def ClassDecl.toFields (c : ClassDecl) : List (String × Value) :=
  [("name", .text c.name), ("source_file", .orNull (c.sourceFile.map .text)),
    ("fields", .list (c.fields.map FieldDecl.toValue)),
    ("properties", .list (c.properties.map PropertyDecl.toValue)),
    ("methods", .list (c.methods.map MethodDecl.toValue)), ("position", c.position.toValue)]

/-- A class as a value. -/
def ClassDecl.toValue (c : ClassDecl) : Value := .ofFields c.toFields

end Scenario
