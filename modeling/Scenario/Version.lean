import Scenario.FileTree
import Scenario.Text.Lines
import Scenario.Text.Utf8
import Scenario.Toml
import Scenario.Value.Literal

/-! # The version of the program

The version of the installed program counts. Without one, the project file of a source tree tells
it. -/

namespace Scenario.Version

/-- The version when none is known. -/
def unknown : String := "0.0.0"

/-- The name of the project file. -/
def projectFileName : String := "pyproject.toml"

/-- Why no version can be told. -/
inductive Fault where
  /-- The project file is no text. -/
  | undecodable (fault : Text.Utf8.Fault)
  /-- What stands for the project is of another kind than a table. -/
  | notATable (kind : String)
  /-- A whole number in the project file has too many digits. -/
  | longInteger (fault : Digits.Fault)
deriving DecidableEq, Repr

/-- The message for a fault. -/
def Fault.message : Fault → String
  | .undecodable fault => fault.message
  | .notATable kind => s!"'{kind}' object has no attribute 'get'"
  | .longInteger fault => fault.message

/-- The version in a project file, if it has one. -/
def ofDocument (document : Toml.Table) : Except Fault (Option String) :=
  match Value.field? "project" document with
  | none => .ok none
  | some (.map project) =>
    match Value.field? "version" project with
    | some (.text s) => .ok (some s)
    | _ => .ok none
  | some v => .error (.notATable v.kindName)

/-- The version that the content of a project file tells. -/
def ofBytes (bytes : List UInt8) : Except Fault (Option String) :=
  match Text.Utf8.decode bytes with
  | .error fault => .error (.undecodable fault)
  | .ok content =>
    match Toml.load (Text.unifyLineEnds content) with
    | .error .malformed => .ok none
    | .error (.longInteger fault) => .error (.longInteger fault)
    | .ok document => ofDocument document

/-- The version of a source tree whose top is at an address. A project file that may not be read
tells none. -/
def ofSourceTree (tree : FileTree) (top : Address) : Except Fault (Option String) :=
  match tree.entry? (top ++ [projectFileName]) with
  | some (.file bytes) => ofBytes bytes
  | some .locked | some .directory | none => .ok none

/-- A version that is told and not empty, else the one for none. -/
def orUnknown : Option String → String
  | none | some "" => unknown
  | some s => s

/-- The version: that of the installed program, else that of the source tree. -/
def find (installed : Option String) (tree : FileTree) (top : Address) : Except Fault String :=
  match installed with
  | some s => .ok s
  | none => orUnknown <$> ofSourceTree tree top

end Scenario.Version
