import Scenario.FileTree
import Scenario.Log
import Scenario.Text.Lines
import Scenario.Text.Utf8
import Scenario.Toml
import Scenario.Value.Literal

/-! # Settings in files

The table `parser` of a settings file may hold each of the settings; what it leaves out keeps its
default. The file that counts is the one in the nearest directory upward. -/

namespace Scenario

/-- The name of a settings file. -/
def settingsFileName : String := "specmodel.toml"

/-- Why a settings file cannot be used. -/
inductive SettingsFault where
  | notFound
  /-- The file may not be read. -/
  | denied
  | undecodable (fault : Text.Utf8.Fault)
  | malformed
  | notATable
  /-- No policy has this name. -/
  | duplicates (shown : String)
  /-- The text under this name is empty or no text. -/
  | text (key shown : String)
deriving DecidableEq, Repr

/-- A settings file that cannot be used, and why. -/
structure SettingsError where
  path : Path
  fault : SettingsFault
deriving DecidableEq, Repr

namespace SettingsError

/-- The message without the location. -/
def message (e : SettingsError) : String :=
  match e.fault with
  | .notFound => s!"Config file not found: {e.path.text}"
  | .denied => s!"Cannot read config file: {e.path.deniedMessage}"
  | .undecodable fault => s!"Cannot read config file: {fault.message}"
  | .malformed => "Invalid TOML: <toml>"
  | .notATable => "[parser] must be a table"
  | .duplicates shown =>
    s!"Invalid duplicate_fixtures value '{shown}'. Valid values: " ++
      ", ".intercalate (DuplicatePolicy.all.map (·.name))
  | .text key shown => s!"Invalid {key} value {shown}. Expected a non-empty string"

/-- The start of the file, if there is one. -/
def location (e : SettingsError) : Option Location :=
  match e.fault with
  | .notFound => none
  | _ => some { file := some e.path, line := 1, column := 1 }

/-- What is shown of the error. -/
def diagnostic (e : SettingsError) : Diagnostic :=
  { kind := .config, message := e.message, location := e.location }

end SettingsError

/-- Why no settings come of a file. -/
inductive SettingsFailure where
  /-- The file cannot be used. -/
  | invalid (fault : SettingsFault)
  /-- A whole number in the file has too many digits to be read or to be shown. -/
  | longInteger (fault : Digits.Fault)
  /-- The path of the file cannot be followed. -/
  | path (fault : PathFault)
deriving DecidableEq, Repr

/-- The setting under a name cannot be used; the message shows its value. -/
def SettingsFailure.ofShown (fault : String → SettingsFault) :
    Except Digits.Fault String → SettingsFailure
  | .ok shown => .invalid (fault shown)
  | .error long => .longInteger long

namespace Settings

/-- The entries of the table `parser`, if it is one; a document without it has an empty one. -/
def parserTable (document : Toml.Table) : Except SettingsFailure Toml.Table :=
  match Value.field? "parser" document with
  | none => .ok []
  | some (.map table) => .ok table
  | some _ => .error (.invalid .notATable)

/-- The policy for fixtures declared twice. -/
def duplicatesOption (table : Toml.Table) : Except SettingsFailure DuplicatePolicy :=
  match Value.field? "duplicate_fixtures" table with
  | none => .ok ({} : Settings).duplicates
  | some v =>
    match v with
    | .text s =>
      match DuplicatePolicy.ofName? s with
      | some policy => .ok policy
      | none => .error (.invalid (.duplicates s))
    | _ => .error (.ofShown .duplicates v.writePlain)

/-- A text that is not empty. -/
def textOption (table : Toml.Table) (key default : String) : Except SettingsFailure String :=
  match Value.field? key table with
  | none => .ok default
  | some (.text s) =>
    if s = "" then .error (.invalid (.text key (Text.quoted s))) else .ok s
  | some v => .error (.ofShown (.text key) v.writeLiteral)

/-- The settings that a document holds, or the first fault: the table is looked at first, then the
policy, then the texts. -/
def ofDocument (document : Toml.Table) : Except SettingsFailure Settings := do
  let table ← parserTable document
  let duplicates ← duplicatesOption table
  let internalPrefix ← textOption table "internal_prefix" ({} : Settings).internalPrefix
  let sharedMarker ← textOption table "shared_annotation" ({} : Settings).sharedMarker
  return { internalPrefix, sharedMarker, duplicates }

/-- The settings that the content of a file holds. -/
def ofBytes (bytes : List UInt8) : Except SettingsFailure Settings :=
  match Text.Utf8.decode bytes with
  | .error fault => .error (.invalid (.undecodable fault))
  | .ok content =>
    match Toml.load (Text.unifyLineEnds content) with
    | .error .malformed => .error (.invalid .malformed)
    | .error (.longInteger fault) => .error (.longInteger fault)
    | .ok document => ofDocument document

/-- The settings of what stands at a path. -/
def ofEntry : Option FileEntry → Except SettingsFailure Settings
  | some (.file bytes) => ofBytes bytes
  | some .locked => .error (.invalid .denied)
  | some .directory | none => .error (.invalid .notFound)

/-- The settings of what has been found at a path. -/
def ofFound : Except PathFault (Option FileEntry) → Except SettingsFailure Settings
  | .ok entry => ofEntry entry
  | .error fault => .error (.path fault)

/-- The settings of a file. -/
def load (tree : FileTree) (home : Address) (path : Path) : Except SettingsFailure Settings :=
  ofFound (tree.find home path)

/-- The record of a file that has been loaded. -/
def loadEvents (path : Path) : Except SettingsFailure Settings → List Event
  | .ok settings => [.settingsLoaded path settings]
  | .error _ => []

end Settings

/-- The directories from an address up to the top, the nearest first. -/
def Address.upward (a : Address) : List Address :=
  (List.range (a.length + 1)).map fun n => a.take (a.length - n)

namespace FileTree

/-- The directory where a search begins: what stands at an address, or the directory around it if
that is a file. -/
def searchStart (t : FileTree) (a : Address) : Address := if t.isFile a then a.dropLast else a

/-- The nearest settings file upward from an address. -/
def nearestSettings? (t : FileTree) (a : Address) : Option Address :=
  ((t.searchStart a).upward.map (· ++ [settingsFileName])).find? t.isFile

/-- The nearest settings file upward from what a path names in a working directory. What the path
names is looked up first, then the file in the first directory; the other paths are shorter. -/
def findSettings (t : FileTree) (home start : Path) : Except PathFault (Option Address) :=
  if start.hasNul then .error .nul
  else do
    let a := start.resolve home.parts
    let _ ← t.find [] { home with parts := a }
    let _ ← t.find [] { home with parts := t.searchStart a ++ [settingsFileName] }
    return t.nearestSettings? a

end FileTree

end Scenario
