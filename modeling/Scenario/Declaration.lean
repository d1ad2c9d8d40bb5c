import Scenario.Value

/-! # Declarations of a class

What a front end tells about one class: its fields, properties and methods, every method with the
statements of its body. Of a statement only its label, its place and the text of a bare string
literal matter here; its expression is carried along. -/

namespace Scenario

/-- A line and a column of a source file, counted from one. -/
structure Position where
  line : Int := 1
  column : Int := 1
deriving DecidableEq, Repr, Inhabited

/-- A position as it is shown. -/
def Position.text (p : Position) : String := s!"{p.line}:{p.column}"

/-- A statement at the top level of a method body. -/
structure Statement where
  /-- The label in front of the statement. -/
  label : Option String := none
  position : Position := {}
  /-- The text of a statement that is only a string literal. -/
  literal : Option String := none
  /-- What the statement does; handed through unseen. -/
  expression : Value := .null
deriving Repr, Inhabited

/-- A property of a class. -/
structure PropertyDecl where
  name : String
  position : Position := {}
deriving DecidableEq, Repr

/-- A field of a class. -/
structure FieldDecl where
  name : String
  isStatic : Bool := false
  isSynthetic : Bool := false
  annotations : List String := []
  position : Position := {}
deriving DecidableEq, Repr

/-- A method or constructor of a class. -/
structure MethodDecl where
  name : String
  isStatic : Bool := false
  /-- Made by a compiler and not written by the user. -/
  isSynthetic : Bool := false
  isConstructor : Bool := false
  statements : List Statement := []
  position : Position := {}
  endPosition : Option Position := none
deriving Repr

/-- A class, its members in the order of their declarations. -/
structure ClassDecl where
  name : String
  sourceFile : Option String := none
  fields : List FieldDecl := []
  properties : List PropertyDecl := []
  methods : List MethodDecl := []
  position : Position := {}
deriving Repr

namespace MethodDecl

/-- The place where the body ends: as declared, else that of the last statement, else that of the
method. -/
def lastPosition (m : MethodDecl) : Position :=
  m.endPosition.getD ((m.statements.getLast?.map (·.position)).getD m.position)

/-- Whether a statement of the body has a label. -/
def hasLabels (m : MethodDecl) : Bool := m.statements.any (·.label.isSome)

/-- The labels of the body, in order. -/
def labels (m : MethodDecl) : List String := m.statements.filterMap (·.label)

/-- A body has labels exactly when the list of them is not empty. -/
theorem hasLabels_iff (m : MethodDecl) : m.hasLabels = true ↔ m.labels ≠ [] := by
  simp only [hasLabels, labels, List.any_eq_true, ne_eq, List.filterMap_eq_nil_iff,
    Classical.not_forall, Option.isSome_iff_ne_none, exists_prop]

end MethodDecl

namespace FieldDecl

/-- The part of a name after its last dot. -/
def simpleName (qualified : String) : String :=
  String.ofList (qualified.toList.reverse.takeWhile (· ≠ '.')).reverse

/-- Whether a field has an annotation, given by its simple or its qualified name. -/
def isAnnotatedWith (f : FieldDecl) (name : String) : Bool :=
  f.annotations.any fun a => a == name || simpleName a == name

end FieldDecl

/-- The property of a class with a given name. -/
def ClassDecl.property? (c : ClassDecl) (name : String) : Option PropertyDecl :=
  c.properties.find? (·.name == name)

end Scenario
