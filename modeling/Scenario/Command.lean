import Scenario.Batch
import Scenario.Command.Arguments
import Scenario.Settings.File
import Scenario.Specification.Outline
import Scenario.Json.Printer
import Scenario.Terminal

/-! # The command line as a function

What the program writes and how it ends follows from its arguments and from the files it may look
at. -/

namespace Scenario.Command

open Text.Markup (escape styled)

/-- What a run of the program depends on. -/
structure Environment where
  tree : FileTree
  /-- The working directory. -/
  home : Path
  version : String

/-- The address of the working directory. -/
def Environment.address (env : Environment) : Address := env.home.parts

/-- What is written on one channel. -/
inductive Stream where
  | text (s : String)
  /-- How the program is used. -/
  | usage
deriving DecidableEq, Repr

/-- How the program is used. -/
def usage : String :=
  "\n".intercalate
    ["Usage: specmodel [OPTIONS] COMMAND [ARGS]...",
      "",
      "Build specification object models from class syntax trees",
      "",
      "Options:",
      "  -V, --version  Show version and exit",
      "  --help         Show this message and exit",
      "",
      "Commands:",
      "  parse    Parse specification classes and print their structure",
      "  grammar  Show which blocks may follow each block",
      ""]

/-- The characters on a channel. -/
def Stream.content : Stream → String
  | .text s => s
  | .usage => Command.usage

/-- What a run of the program gives. -/
structure Output where
  exit : Nat
  stdout : Stream
  stderr : Stream
deriving DecidableEq, Repr

/-- The formats of the output. -/
inductive OutputFormat where
  | text
  | json
deriving DecidableEq, Repr

/-- The format with a name, in letters of any case. -/
def OutputFormat.ofName? (name : String) : Option OutputFormat :=
  match Text.lowerCase name with
  | "text" => some .text
  | "json" => some .json
  | _ => none

/-- The records that are written: all if asked for, else warnings only. -/
def showEvents (verbose : Bool) (events : List Event) : String :=
  let noted := events.filter fun e => verbose || Level.warning.rank ≤ e.level.rank
  String.join (noted.map fun e => Text.shown (e.record ++ "\n"))

/-- A text as it is reported: halves are told by their numbers. -/
def reported (text : String) : String := Text.shown (Terminal.showText text)

/-- A fault of a kind, as it is reported. -/
def showFault (kind text : String) : String :=
  reported (styled "red" s!"{kind}:" ++ " " ++ escape text)

/-- A class that is no specification, as it is reported. -/
def showFailure (className : String) (e : ParseError) : String :=
  reported (styled "red" s!"✗ {escape className}" ++ "\n" ++ escape e.diagnostic.text)

/-- The failures among outcomes, as they are reported. -/
def showFailures (os : List Outcome) : String :=
  String.join (os.map fun o => match o.result with
    | .ok _ => ""
    | .error e => showFailure o.className e)

/-- Whether all outcomes are specifications. -/
def allBuilt (os : List Outcome) : Bool := os.all (·.result.toBool)

/-- The settings file that counts, with what is found there: the one given, else the nearest. -/
def settingsFile (env : Environment) (r : ParseRequest) :
    Option (Path × Except PathFault (Option FileEntry)) :=
  match r.config with
  | some file => some (.ofText file, env.tree.find env.address (.ofText file))
  | none =>
    (env.tree.nearestSettings? env.address).map fun a =>
      ({ env.home with parts := a }, .ok (env.tree.entry? a))

/-- The addresses that a run in a working directory may look at. -/
def addresses (home : Address) (args : List String) : List Address :=
  match request args with
  | .parse r =>
    (r.paths.filter (!hasNul ·)).flatMap (fun s => (Path.ofText s).stations home) ++
      home.upward.map (· ++ [settingsFileName])
  | _ => []

/-! ## Arguments that name files -/

/-- Whether only a directory can stand where a text leads, since it ends in a slash, or in a dot
behind one. -/
def endsInDirectory (s : String) : Bool :=
  match (s.toList.splitOn '/').reverse with
  | [] :: _ | ['.'] :: _ => true
  | _ => false

/-- Whether something stands where a text leads, as it is given, that may not be read. What cannot
be looked up is not there. -/
def leadsToLocked (env : Environment) (s : String) : Bool :=
  let path := Path.ofText s
  if s = "" ∨ Path.maxSize < Path.size s then false
  else match env.tree.find env.address path with
    | .ok (some .directory) => env.tree.isLocked (path.resolve env.address)
    | .ok (some .locked) => !endsInDirectory s
    | _ => false

/-- Why an argument that names a file ends a run before any file is read. -/
inductive Refusal where
  /-- The argument holds the character NUL, and cannot be looked up. -/
  | nul
  /-- The argument leads to what may not be read. -/
  | locked
deriving DecidableEq, Repr

/-- Why an argument that names a file is refused, if it is. -/
def refusal? (env : Environment) (s : String) : Option Refusal :=
  if hasNul s then some .nul else if leadsToLocked env s then some .locked else none

/-- Why the first of the arguments that are refused is. -/
def firstRefusal? (env : Environment) (r : ParseRequest) : Option Refusal :=
  r.paths.findSome? (refusal? env)

/-! ## Files one after another -/

/-- What has come of the files so far. -/
structure Progress where
  /-- What has been written on the channel for errors. -/
  report : String := ""
  specifications : List Specification := []
  failed : Bool := false
  /-- A file has stopped the run. -/
  aborted : Bool := false

/-- Goes on with a file. -/
def Progress.addFile (env : Environment) (settings : Settings) (verbose : Bool) (p : Progress)
    (path : Path) : Progress :=
  match loadClasses env.tree env.address path with
  | .error (.input e) =>
    { p with
      report := p.report ++ showFault "Input error" e.diagnostic.text
      failed := true }
  | .error _ => { p with failed := true, aborted := true }
  | .ok classes =>
    let (events, os) := buildAll settings classes
    { p with
      report := p.report ++ showEvents verbose (.loaded classes.length path :: events) ++
        showFailures os
      specifications := p.specifications ++ specificationsOf os
      failed := p.failed || !allBuilt os }

/-- Goes on with files, up to one that stops the run. -/
def Progress.addFiles (env : Environment) (settings : Settings) (verbose : Bool) (p : Progress) :
    List Path → Progress
  | [] => p
  | path :: rest =>
    let q := p.addFile env settings verbose path
    if q.aborted then q else Progress.addFiles env settings verbose q rest

/-- Specifications in a format. -/
def showSpecifications (format : OutputFormat) (specs : List Specification) : String :=
  match format with
  | .json => (Json.list (specs.map fun s => s.outline.toJson)).pretty ++ "\n"
  | .text => Terminal.showTrees (specs.filterMap Specification.listing?)

/-- Whether all specifications can be shown in a format. -/
def canShow (format : OutputFormat) (specs : List Specification) : Bool :=
  match format with
  | .json => true
  | .text => (specs.filterMap Specification.listing?).all Terminal.canShowTree

/-- What comes of a parse with settings. -/
def runFiles (env : Environment) (r : ParseRequest) (format : OutputFormat) (settings : Settings)
    (report : String) : Output :=
  let p := Progress.addFiles env settings r.verbose { report } (r.files.map Path.ofText)
  { exit := if p.failed || !canShow format p.specifications then 1 else 0
    stdout := .text (if p.aborted then "" else showSpecifications format p.specifications)
    stderr := .text p.report }

/-- A run that something has stopped which is not reported. -/
def stopped : Output := ⟨1, .text "", .text ""⟩

/-- A run whose arguments are no use. -/
def misused : Output := ⟨2, .text "", .usage⟩

/-- A run that ends with an argument that is refused. -/
def Refusal.output : Refusal → Output
  | .nul => stopped
  | .locked => misused

/-- The parse command. The format is checked first, then the settings are loaded. -/
def runParse (env : Environment) (r : ParseRequest) : Output :=
  match OutputFormat.ofName? r.format with
  | none => ⟨2, .text "", .text (showFault "Unknown format" r.format)⟩
  | some format =>
    match settingsFile env r with
    | none => runFiles env r format {} ""
    | some (path, found) =>
      let result := Settings.ofFound found
      match result with
      | .ok settings =>
        runFiles env r format settings (showEvents r.verbose (Settings.loadEvents path result))
      | .error (.invalid fault) =>
        let e : SettingsError := ⟨path, fault⟩
        ⟨2, .text "", .text (showFault "Config error" e.diagnostic.text)⟩
      | .error _ => stopped

/-- A run of the program. The arguments that name files are looked up before anything is read. -/
def run (env : Environment) (args : List String) : Output :=
  match request args with
  | .parse r =>
    match firstRefusal? env r with
    | some refusal => refusal.output
    | none => runParse env r
  | .unusablePath => stopped
  | .grammar => ⟨0, .text Terminal.grammarTable, .text ""⟩
  | .version => ⟨0, .text s!"specmodel {env.version}\n", .text ""⟩
  | .help => ⟨0, .usage, .text ""⟩
  | .nothing => ⟨2, .usage, .text ""⟩
  | .misuse => misused

end Scenario.Command
