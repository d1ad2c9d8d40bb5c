import Scenario.Declaration.Decoder
import Scenario.Diagnostic
import Scenario.FileTree
import Scenario.Json.Reader
import Scenario.Log
import Scenario.Yaml.Document

/-! # Loading class declarations

A document holds one class, a list of classes, or a mapping whose entry `classes` is one of these.
Its shape is checked before any class is read. -/

namespace Scenario

/-- Why a document gives no classes. -/
inductive InputFault where
  | notFound
  | notAFile
  /-- The file may not be read. -/
  | denied
  | undecodable (fault : Text.Utf8.Fault)
  | malformedJson (fault : Json.Fault)
  | malformedYaml
  /-- The name of the file does not end as that of a known format. -/
  | unsupported (suffix : String)
  /-- Neither a class nor a list of classes. -/
  | shape
  /-- The class with this name, or at this place, is not as it should be. -/
  | invalidClass (name : String) (issues : List Issue)
deriving DecidableEq, Repr

/-- A document that gives no classes, and why. -/
structure InputError where
  path : Path
  fault : InputFault
deriving DecidableEq, Repr

namespace InputError

/-- The message without the location. -/
def message (e : InputError) : String :=
  match e.fault with
  | .notFound => s!"Syntax tree file not found: {e.path.text}"
  | .notAFile => s!"Syntax tree path is not a file: {e.path.text}"
  | .denied => s!"Cannot read syntax tree file: {e.path.deniedMessage}"
  | .undecodable fault => s!"Cannot read syntax tree file: {fault.message}"
  | .malformedJson fault => s!"Malformed syntax tree document: {fault.message}"
  | .malformedYaml => "Malformed syntax tree document: <yaml>"
  | .unsupported suffix =>
    s!"Unsupported syntax tree format '{suffix}'; expected .json, .yaml or .yml"
  | .shape => "Expected a class mapping or a list of class mappings"
  | .invalidClass name _ => s!"Invalid syntax tree for class {name}"

/-- The start of the document, if there is one. -/
def location (e : InputError) : Option Location :=
  match e.fault with
  | .notFound => none
  | _ => some { file := some e.path, line := 1, column := 1 }

/-- The issues of a failed validation. -/
def issues (e : InputError) : Option (List Issue) :=
  match e.fault with
  | .invalidClass _ issues => some issues
  | _ => none

/-- What is shown of the error. -/
def diagnostic (e : InputError) : Diagnostic :=
  { kind := .input e.issues, message := e.message, location := e.location }

end InputError

/-- Why a file is not loaded: an unusable document, or something in the file or its path that is not
told as a fault of the document. -/
inductive LoadError where
  | input (e : InputError)
  /-- A whole number has too many digits to be read or to be shown. -/
  | longInteger (fault : Digits.Fault)
  /-- A scalar has the form of a certain kind of value without being one. -/
  | scalar (fault : Yaml.ScalarFault)
  /-- The path of the file cannot be followed. -/
  | path (fault : PathFault)
deriving DecidableEq, Repr

/-- The value under `classes`, if the document is a mapping with that entry; else the document. -/
def unwrapClasses (document : Value) : Value :=
  match document.exposed with
  | .map entries => (Value.field? "classes" entries).getD (.list [document])
  | v => v

/-- The entries of a mapping. -/
def entries? (v : Value) : Option (List (Value × Value)) :=
  match v.exposed with
  | .map entries => some entries
  | _ => none

/-- The mappings that describe the classes of a document. -/
def classEntries? (document : Value) : Option (List (List (Value × Value))) :=
  match (unwrapClasses document).exposed with
  | .list items => items.mapM entries?
  | _ => none

/-- A mapping that names no source file is given one. -/
def withSource (source : Path) (entries : List (Value × Value)) : List (Value × Value) :=
  match Value.field? "source_file" entries with
  | some _ => entries
  | none => (.text "source_file", .text source.text) :: entries

/-- What a class is called in a message: its name, or its place in the document. -/
def entryName (index : Nat) (entries : List (Value × Value)) : Except Digits.Fault String :=
  match Value.field? "name" entries with
  | some name => name.writePlain
  | none => .ok s!"#{index}"

/-- A class that is not as it should be, if its name can be told. -/
def LoadError.ofIssues (source : Path) (index : Nat) (entries : List (Value × Value))
    (issues : List Issue) : LoadError :=
  match entryName index entries with
  | .ok name => .input ⟨source, .invalidClass name issues⟩
  | .error fault => .longInteger fault

/-- Reads the classes from a place in a document on, up to the first that is not as it should
be. -/
def readClasses (source : Path) (index : Nat) :
    List (List (Value × Value)) → Except LoadError (List ClassDecl)
  | [] => .ok []
  | entries :: rest =>
    match ClassDecl.decoder (.map (withSource source entries)) with
    | .error issues => .error (.ofIssues source index entries issues)
    | .ok c => (c :: ·) <$> readClasses source (index + 1) rest

/-- The classes of a document. Those that name no source file belong to `source`. -/
def classesOfDocument (document : Value) (source : Path) : Except LoadError (List ClassDecl) :=
  match classEntries? document with
  | none => .error (.input ⟨source, .shape⟩)
  | some entries => readClasses source 0 entries

/-- The formats of documents. -/
inductive Format where
  | json
  | yaml
deriving DecidableEq, Repr

/-- The format of the files whose names end with a suffix, in letters of any case. -/
def Format.ofSuffix? (suffix : String) : Option Format :=
  match suffix.toLower with
  | ".json" => some .json
  | ".yaml" | ".yml" => some .yaml
  | _ => none

/-- The value that the text of a file denotes. -/
def readDocument (path : Path) (content : List Char) : Except LoadError Value :=
  match Format.ofSuffix? path.suffix with
  | none => .error (.input ⟨path, .unsupported path.suffix⟩)
  | some .json =>
    match Json.ofChars content with
    | .ok j => .ok j.toValue
    | .error (.longInteger digits) => .error (.longInteger (.read digits))
    | .error fault => .error (.input ⟨path, .malformedJson fault⟩)
  | some .yaml =>
    match Yaml.load content with
    | .ok v => .ok v
    | .error .malformed => .error (.input ⟨path, .malformedYaml⟩)
    | .error (.scalar fault) => .error (.scalar fault)

/-- The value that a file denotes. -/
def readFile (tree : FileTree) (home : Address) (path : Path) : Except LoadError Value :=
  match tree.find home path with
  | .error fault => .error (.path fault)
  | .ok none => .error (.input ⟨path, .notFound⟩)
  | .ok (some .directory) => .error (.input ⟨path, .notAFile⟩)
  | .ok (some .locked) => .error (.input ⟨path, .denied⟩)
  | .ok (some (.file bytes)) =>
    match Text.Utf8.decode bytes with
    | .error fault => .error (.input ⟨path, .undecodable fault⟩)
    | .ok content => readDocument path (Text.unifyLineEnds content)

/-- The classes of a file. -/
def loadClasses (tree : FileTree) (home : Address) (path : Path) :
    Except LoadError (List ClassDecl) := do
  classesOfDocument (← readFile tree home path) path

end Scenario
