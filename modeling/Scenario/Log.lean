import Scenario.Classification

/-! # Log records

What happens on the way is told as events; each has a level, a source and a message. -/

namespace Scenario

/-- How important a record is. -/
inductive Level where
  | debug
  | info
  | warning
deriving DecidableEq, Repr

namespace Level

/-- The name of a level. -/
def name : Level → String
  | .debug => "DEBUG"
  | .info => "INFO"
  | .warning => "WARNING"

/-- The rank of a level: the higher, the more important. -/
def rank : Level → Nat
  | .debug => 0
  | .info => 1
  | .warning => 2

end Level

/-- Something worth a record. -/
inductive Event where
  | building (className : String)
  | ignoringField (className field : String)
  | method (className method : String) (verdict : MethodVerdict)
  /-- A later declaration of a fixture takes the place of an earlier one. -/
  | fixtureReplaced (className : String) (role : Role) (position : Position)
  | built (className : String) (fields features helpers fixtures : Nat)
  | failed (className message : String)
  | loaded (count : Nat) (path : Path)
  | settingsLoaded (path : Path) (settings : Settings)
deriving DecidableEq, Repr

/-- The settings as they are shown in a record. -/
def Settings.text (s : Settings) : String :=
  "ParserConfig(internal_prefix=" ++ Text.quoted s.internalPrefix ++
    ", shared_annotation=" ++ Text.quoted s.sharedMarker ++
    ", duplicate_fixtures=<DuplicateFixturePolicy." ++
    (match s.duplicates with | .error => "ERROR" | .overwrite => "OVERWRITE") ++
    ": '" ++ s.duplicates.name ++ "'>)"

namespace Event

/-- The level of an event. -/
def level : Event → Level
  | .failed .. => .info
  | .fixtureReplaced .. => .warning
  | _ => .debug

/-- The part of the program that an event is from. -/
def source : Event → String
  | .failed .. => "specmodel.core.parser"
  | .loaded .. => "specmodel.core.syntax_loader"
  | .settingsLoaded .. => "specmodel.core.config"
  | _ => "specmodel.core.builder"

/-- The message of an event. -/
def message : Event → String
  | .building c => s!"Building specification {c}"
  | .ignoringField c f => s!"Ignoring field {c}.{f}"
  | .method c m verdict => s!"Method {c}.{m}: {verdict.name}"
  | .fixtureReplaced c role position =>
    s!"{c}: '{role.name}()' declared more than once; the declaration at {position.text} " ++
      "replaces the earlier one"
  | .built c fields features helpers fixtures =>
    s!"Built {c}: {fields} fields, {features} features, {helpers} helpers, {fixtures} fixtures"
  | .failed c m => s!"Failed to parse {c}: {m}"
  | .loaded count path => s!"Loaded {count} class(es) from {path.text}"
  | .settingsLoaded path settings =>
    s!"Loaded parser config from {path.text}: {settings.text}"

/-- The record of an event. -/
def record (e : Event) : String := s!"{e.level.name} {e.source}: {e.message}"

end Event

end Scenario
