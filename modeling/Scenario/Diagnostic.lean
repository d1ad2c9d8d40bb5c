import Scenario.Block.Assembly
import Scenario.Path
import Scenario.Specification
import Scenario.Validation

/-! # Diagnostics

An error is a cause with a place. A diagnostic is what is shown of it: a kind, a message and, where
one is known, a location that stands in front of the message. -/

namespace Scenario

/-- Where an error lies. -/
structure Location where
  file : Option Path
  line : Int
  column : Int
  className : Option String := none
  methodName : Option String := none
deriving DecidableEq, Repr

/-- File, line and column, then the class and the method if they have names. -/
def Location.text (l : Location) : String :=
  let file := (l.file.map Path.text).getD "<unknown>"
  let method := match l.methodName with
    | none | some "" => ""
    | some m => "." ++ m
  let owner := match l.className with
    | none | some "" => ""
    | some c => " in " ++ c ++ method
  s!"{file}:{l.line}:{l.column}{owner}"

/-- The kind of a diagnostic, with what only this kind shows. -/
inductive DiagnosticKind where
  | general
  | structural
  | naming
  | modifier
  | label (label : Option String) (allowed : List String)
  | duplicateFixture
  /-- An unusable document; the issues are those of a failed validation. -/
  | input (issues : Option (List Issue))
  | config
deriving DecidableEq, Repr

/-- What is shown of an error. -/
structure Diagnostic where
  kind : DiagnosticKind
  message : String
  location : Option Location
deriving DecidableEq, Repr

/-- The message, after the location on a line of its own. -/
def Diagnostic.text (d : Diagnostic) : String :=
  match d.location with
  | some l => l.text ++ "\n" ++ d.message
  | none => d.message

/-- Why a class is no specification. -/
inductive Refusal where
  /-- A constructor written by the user. -/
  | constructor
  /-- A fixture's name in wrong capitals. -/
  | misspelledFixture (role : Role)
  | staticFixture
  | staticFeature
  /-- A label that breaks the grammar of blocks. -/
  | label (fault : LabelFault)
  /-- A fixture declared before. -/
  | duplicateFixture (role : Role)
deriving DecidableEq, Repr

namespace Refusal

/-- The message for a refusal. -/
def message : Refusal → String
  | .constructor =>
    "Constructors are not allowed; instead, define a 'setup()' or 'setupSpec()' method"
  | .misspelledFixture role => s!"Misspelled '{role.name}()' method (wrong capitalization)"
  | .staticFixture => "Fixture methods must not be static"
  | .staticFeature => "Feature methods must not be static"
  | .label fault => fault.message
  | .duplicateFixture role =>
    s!"Duplicate '{role.name}()' method; only one is allowed per specification"

/-- The kind of diagnostic for a refusal. -/
def kind : Refusal → DiagnosticKind
  | .constructor => .structural
  | .misspelledFixture _ => .naming
  | .staticFixture | .staticFeature => .modifier
  | .label fault => .label (some fault.label) fault.allowed
  | .duplicateFixture _ => .duplicateFixture

end Refusal

/-- The file that a class was declared in; an empty name is none. -/
def ClassDecl.file? (c : ClassDecl) : Option Path :=
  match c.sourceFile with
  | none | some "" => none
  | some s => some (.ofText s)

/-- The location of a place in a member of a class. -/
def ClassDecl.locate (c : ClassDecl) (position : Position) (methodName : Option String) :
    Location :=
  { file := c.file?
    line := position.line
    column := position.column
    className := some c.name
    methodName }

/-- A refusal and the place in a class where it arises. -/
structure ParseError where
  refusal : Refusal
  location : Location
deriving DecidableEq, Repr

namespace ParseError

/-- The message without the location. -/
def message (e : ParseError) : String := e.refusal.message

/-- What is shown of the error. -/
def diagnostic (e : ParseError) : Diagnostic :=
  { kind := e.refusal.kind, message := e.message, location := some e.location }

end ParseError

end Scenario
