import Scenario.Command
import Scenario.Proofs.Batch
import Scenario.Proofs.FileTree
import Scenario.Proofs.Loading

/-! # The parse command

Files that are answered are reported one after another, and their specifications are gathered
(`ParsesWith.run_of_answered`); a file that is not answered stops the run
(`ParsesWith.run_of_not_answered`). On answered files the command agrees with the traversal of files
and with the batches of their classes (`entryPoints_agree`), unless one of its arguments is refused:
that ends the run before any file is loaded (`run_of_refused`). -/

namespace Scenario.Command

variable {env : Environment} {settings : Settings} {verbose : Bool} {p : Progress} {path : Path}
  {paths before after : List Path} {r : ParseRequest} {format : OutputFormat} {report : String}
  {args : List String}

/-- What is reported of a file. -/
def fileReport (env : Environment) (settings : Settings) (verbose : Bool) (path : Path) : String :=
  match loadClasses env.tree env.address path with
  | .error (.input e) => showFault "Input error" e.diagnostic.text
  | .error _ => ""
  | .ok classes =>
    showEvents verbose (.loaded classes.length path :: (buildAll settings classes).1) ++
      showFailures (outcomes settings classes)

/-- All classes are built if there is no error among their outcomes. -/
theorem allBuilt_eq_isEmpty (os : List Outcome) : allBuilt os = (errorsOf os).isEmpty := by
  rw [Bool.eq_iff_iff, List.isEmpty_iff, errorsOf_eq_nil_iff, allBuilt, List.all_eq_true]
  refine forall₂_congr fun o _ => ?_
  cases o.result <;> simp [Except.toBool]

/-! ## Files one after another -/

namespace Progress

/-- The progress after files that are answered. -/
def noting (env : Environment) (settings : Settings) (verbose : Bool) (p : Progress)
    (paths : List Path) : Progress :=
  { p with
    report := p.report ++ String.join (paths.map (fileReport env settings verbose))
    specifications :=
      p.specifications ++ paths.flatMap (fileSpecifications env.tree env.address settings)
    failed := p.failed || !(paths.flatMap (fileErrors env.tree env.address settings)).isEmpty }

theorem noting_nil : p.noting env settings verbose [] = p := by
  simp [noting]

theorem noting_cons : p.noting env settings verbose (path :: paths) =
    (p.noting env settings verbose [path]).noting env settings verbose paths := by
  unfold noting
  simp only [List.map_cons, List.map_nil, List.flatMap_cons, List.flatMap_nil, List.append_nil,
    List.append_assoc, String.join_cons, String.join_nil, String.append_empty,
    String.append_assoc]
  cases fileErrors env.tree env.address settings path <;> simp

/-- A file that is answered is reported, its specifications are gathered, and an error leaves its
mark. -/
theorem addFile_of_answered (h : Answered env.tree env.address path) :
    p.addFile env settings verbose path = p.noting env settings verbose [path] := by
  unfold addFile noting
  simp only [List.map_cons, List.map_nil, List.flatMap_singleton, String.join_cons, String.join_nil,
    String.append_empty]
  unfold fileReport
  cases hload : loadClasses env.tree env.address path with
  | error e =>
      obtain ⟨i, rfl⟩ := h e hload
      rw [fileErrors_of_eq_error hload, fileSpecifications_of_eq_error hload]
      simp
  | ok classes =>
      rw [fileErrors_of_eq_ok hload, fileSpecifications_of_eq_ok hload]
      simp [String.append_assoc, allBuilt_eq_isEmpty, outcomes]

/-- A file that is not answered stops the run. -/
theorem addFile_of_not_answered (h : ¬ Answered env.tree env.address path) :
    p.addFile env settings verbose path = { p with failed := true, aborted := true } := by
  unfold addFile
  split
  · next e hload => exact absurd (fun e' he => ⟨e, by rw [hload] at he; cases he; rfl⟩) h
  · rfl
  · next classes hload => exact absurd (fun e' he => by rw [hload] at he; cases he) h

/-- Files that are answered are gone through one after another. -/
theorem addFiles_append (hp : p.aborted = false)
    (h : ∀ path ∈ before, Answered env.tree env.address path) :
    p.addFiles env settings verbose (before ++ after) =
      (p.noting env settings verbose before).addFiles env settings verbose after := by
  induction before generalizing p with
  | nil => rw [List.nil_append, noting_nil]
  | cons path before ih =>
      rw [List.forall_mem_cons] at h
      have hnoted : (p.noting env settings verbose [path]).aborted = false := hp
      rw [List.cons_append, noting_cons, addFiles, addFile_of_answered h.1, hnoted,
        if_neg Bool.false_ne_true, ih hnoted h.2]

theorem addFiles_of_answered (hp : p.aborted = false)
    (h : ∀ path ∈ paths, Answered env.tree env.address path) :
    p.addFiles env settings verbose paths = p.noting env settings verbose paths := by
  rw [← List.append_nil paths, addFiles_append hp h, List.append_nil, addFiles]

end Progress

/-! ## Runs over files -/

/-- An argument that names a file is accepted if it can be looked up and nothing is locked at the
address that it names. -/
theorem refusal?_eq_none {s : String} (hnul : hasNul s = false)
    (hlock : env.tree.isLocked ((Path.ofText s).resolve env.address) = false) :
    refusal? env s = none := by
  have hleads : leadsToLocked env s = false := by
    unfold leadsToLocked
    dsimp only
    split
    · rfl
    · split
      · exact hlock
      · next hfind =>
        rw [FileTree.isLocked_of_locked (FileTree.entry?_of_find hfind)] at hlock
        cases hlock
      · rfl
  rw [refusal?, hnul, hleads]
  rfl

theorem firstRefusal?_eq_none_iff :
    firstRefusal? env r = none ↔ ∀ s ∈ r.paths, refusal? env s = none :=
  List.findSome?_eq_none_iff

/-- A refused argument ends the parse, whatever the files hold and whichever of them could be
loaded. -/
theorem run_of_refused {refusal : Refusal} (hrequest : request args = .parse r)
    (hrefused : firstRefusal? env r = some refusal) : run env args = refusal.output := by
  rw [run, hrequest]
  dsimp only
  rw [hrefused]

/-- Every list of files can be handed to the parse command. -/
theorem request_parse_json {files : List String} (hne : files ≠ []) :
    request ("parse" :: "-f" :: "json" :: "--" :: files) = .parse { files, format := "json" } := by
  have hprogram : split programSwitches false ("parse" :: "-f" :: "json" :: "--" :: files) =
      some { others := "parse" :: "-f" :: "json" :: "--" :: files } := by
    rw [split, if_neg (by decide), if_neg (by decide +kernel), if_neg Bool.false_ne_true]
  have hformat : meaning [formatSwitch, configSwitch, verboseSwitch, helpSwitch] "-f" =
      some ([], some formatSwitch) := by
    decide +kernel
  have hsplit : split [formatSwitch, configSwitch, verboseSwitch, helpSwitch] true
      ("-f" :: "json" :: "--" :: files) =
        some { options := [⟨formatSwitch, some "json"⟩], others := files } := by
    rw [split, if_neg (by decide), if_pos (by decide +kernel), hformat]
    dsimp only
    rw [split, if_pos rfl]
    rfl
  have hfiles : files.isEmpty = false := List.isEmpty_eq_false_iff.mpr hne
  rw [request, hprogram]
  simp only [List.isEmpty_cons, List.isEmpty_nil, Bool.not_true, Bool.false_eq_true, if_false]
  rw [parseRequest, hsplit]
  simp [Split.has, Split.value?, hfiles, formatSwitch]

/-- The settings of a parse: those of the settings file that counts, or else the defaults. -/
def requestSettings (env : Environment) (r : ParseRequest) : Except SettingsFailure Settings :=
  match settingsFile env r with
  | none => .ok {}
  | some (_, found) => Settings.ofFound found

/-- What is reported of the settings file that counts. -/
def settingsReport (env : Environment) (r : ParseRequest) : String :=
  match settingsFile env r with
  | none => ""
  | some (path, found) => showEvents r.verbose (Settings.loadEvents path (Settings.ofFound found))

/-- What is reported of a parse by the time that files have been reported. -/
def parseReport (env : Environment) (settings : Settings) (r : ParseRequest) (paths : List Path) :
    String :=
  settingsReport env r ++ String.join (paths.map (fileReport env settings r.verbose))

/-- What is written of a parse that reports all its files, and shows the specifications of all their
classes. -/
def fullOutput (env : Environment) (settings : Settings) (r : ParseRequest)
    (format : OutputFormat) : Output :=
  let paths := r.files.map Path.ofText
  let specs := paths.flatMap (fileSpecifications env.tree env.address settings)
  let errors := paths.flatMap (fileErrors env.tree env.address settings)
  { exit := if !errors.isEmpty || !canShow format specs then 1 else 0
    stdout := .text (showSpecifications format specs)
    stderr := .text (parseReport env settings r paths) }

/-- A parse with a format and with settings, none of whose arguments is refused. -/
structure ParsesWith (env : Environment) (args : List String) (r : ParseRequest)
    (format : OutputFormat) (settings : Settings) : Prop where
  request : request args = .parse r
  accepted : firstRefusal? env r = none
  format : OutputFormat.ofName? r.format = some format
  settings : requestSettings env r = .ok settings

/-- Once a parse has its format and its settings, it goes through the files. -/
theorem ParsesWith.run_eq (h : ParsesWith env args r format settings) :
    run env args = runFiles env r format settings (settingsReport env r) := by
  obtain ⟨hr, haccepted, hformat, hsettings⟩ := h
  have hrun : run env args = runParse env r := by
    rw [run, hr]
    dsimp only
    rw [haccepted]
  rw [hrun, runParse, hformat]
  unfold requestSettings at hsettings
  unfold settingsReport
  cases hfile : settingsFile env r with
  | none =>
      rw [hfile] at hsettings
      cases hsettings
      rfl
  | some found =>
      rw [hfile] at hsettings
      dsimp only at hsettings ⊢
      rw [hsettings]

/-- A parse of files that are answered reports all of them. -/
theorem ParsesWith.run_of_answered (h : ParsesWith env args r format settings)
    (hanswered : ∀ path ∈ r.files.map Path.ofText, Answered env.tree env.address path) :
    run env args = fullOutput env settings r format := by
  rw [h.run_eq, runFiles, Progress.addFiles_of_answered rfl hanswered]
  rfl

/-- A parse comes to its end at the first file that is not answered: what has been gathered is not
shown, and the files that follow are not looked at. -/
theorem ParsesWith.run_of_not_answered (h : ParsesWith env args r format settings)
    (hfiles : r.files.map Path.ofText = before ++ path :: after)
    (hbefore : ∀ path ∈ before, Answered env.tree env.address path)
    (hpath : ¬ Answered env.tree env.address path) :
    run env args = ⟨1, .text "", .text (parseReport env settings r before)⟩ := by
  rw [h.run_eq, runFiles, hfiles, Progress.addFiles_append rfl hbefore, Progress.addFiles,
    Progress.addFile_of_not_answered hpath]
  rfl

/-! ## The command and the traversal of files -/

/-- The parse command with its output in JSON, told by the traversal of files. -/
structure PrintsParsed (env : Environment) (settings : Settings) (args : List String)
    (paths : List Path) : Prop where
  exit_eq_zero_iff : (run env args).exit = 0 ↔
    ∃ specs, parseFiles env.tree env.address settings paths = .ok specs
  exit_eq_one : (run env args).exit ≠ 0 → (run env args).exit = 1
  /-- Whatever the exit code, the outlines of all specifications are written. -/
  stdout : (run env args).stdout =
    .text ((Json.list ((paths.flatMap (fileSpecifications env.tree env.address settings)).map
      (·.outline.toJson))).pretty ++ "\n")

theorem ParsesWith.printsParsed (h : ParsesWith env args r .json settings)
    (hfiles : r.files.map Path.ofText = paths)
    (hanswered : ∀ path ∈ paths, Answered env.tree env.address path) :
    PrintsParsed env settings args paths := by
  subst hfiles
  have hrun := h.run_of_answered hanswered
  have hexit := congrArg Output.exit hrun
  dsimp only [fullOutput, canShow] at hexit
  have hreturns := (parsesByBatches env.tree env.address settings (r.files.map Path.ofText)).returns
  simp only [← fileErrors_eq_nil_iff, ← List.flatMap_eq_nil_iff] at hreturns
  constructor
  · rw [hexit, hreturns]
    simp
  · rw [hexit]
    simp
  · rw [hrun]
    rfl

/-- A parse that ends with a refused argument is not told by the traversal of files. -/
theorem not_printsParsed_of_refused {refusal : Refusal} (hrequest : request args = .parse r)
    (hrefused : firstRefusal? env r = some refusal) : ¬ PrintsParsed env settings args paths := by
  intro hprints
  have hrun := run_of_refused hrequest hrefused
  cases refusal with
  | nul =>
      -- Even without specifications there is a line with the empty list.
      have hstdout := hprints.stdout
      rw [hrun] at hstdout
      have hempty := congrArg String.toList (Stream.text.inj hstdout)
      simp at hempty
  | locked =>
      have hexit := hprints.exit_eq_one
      rw [hrun] at hexit
      exact absurd (hexit (by decide)) (by decide)

/-- A working directory with a file of two classes, of which the first is refused, and a file of one
class. -/
def specDirectory : Environment where
  tree := (FileTree.empty.insert ["work", "Single.yaml"] (.file "name: C".toUTF8.toList)).insert
    ["work", "Mixed.yaml"] (.file "- name: A\n  methods: [name: Setup]\n- name: B".toUTF8.toList)
  home := .ofText "/work"
  version := "0.1.0"

/-- The two files of the directory, and one that is missing. -/
def specFiles : List String := ["Mixed.yaml", "Missing.json", "Single.yaml"]

/-- A working directory with a file that is locked, and one that is not. -/
def lockedDirectory : Environment where
  tree := (FileTree.empty.insert ["work", "Locked.json"] .locked).insert
    ["work", "Name.json"] (.file "\x7b\"name\": \"A\"\x7d".toUTF8.toList)
  home := .ofText "/work"
  version := "0.1.0"

/-- The two files of the directory. -/
def lockedFiles : List String := ["Locked.json", "Name.json"]

end Scenario.Command
