import Mathlib.Control.Monad.Basic
import Scenario.Version

/-! # The version that a source tree tells

Where no program is installed, the project file of the source tree counts. The version that it
declares is told if it is not empty (`Version.Declares`), and else that for an unknown one, unless
one of three faults of the file escapes (`Version.Escapes`): its bytes are no text, a whole number
in it is too long to be read, or it has something else than a table for the project. -/

namespace Scenario.Version

variable {tree : FileTree} {top : Address} {bytes : List UInt8} {document : Toml.Table}
  {fault : Fault} {s : String}

/-- The project file of a source tree may be read, and has these bytes. -/
def HasProjectFile (tree : FileTree) (top : Address) (bytes : List UInt8) : Prop :=
  tree.entry? (top ++ [projectFileName]) = some (.file bytes)

/-- Bytes are a text that denotes a document. -/
def Denotes (bytes : List UInt8) (document : Toml.Table) : Prop :=
  ∃ chars, Text.Utf8.decode bytes = .ok chars ∧
    Toml.load (Text.unifyLineEnds chars) = .ok document

/-- The project of a document has a text for its version. -/
def DocumentDeclares (document : Toml.Table) (s : String) : Prop :=
  ∃ project, Value.field? "project" document = some (.map project) ∧
    Value.field? "version" project = some (.text s)

/-- The project file of a source tree declares a version. -/
def Declares (tree : FileTree) (top : Address) (s : String) : Prop :=
  ∃ bytes document, HasProjectFile tree top bytes ∧ Denotes bytes document ∧
    DocumentDeclares document s

/-- A fault of the bytes of a project file for which no version is told. -/
inductive Spoils (bytes : List UInt8) : Fault → Prop where
  /-- The bytes are no text. -/
  | undecodable (fault : Text.Utf8.Fault) (h : Text.Utf8.decode bytes = .error fault) :
    Spoils bytes (.undecodable fault)
  /-- A whole number is too long to be read. -/
  | longInteger (chars : List Char) (fault : Digits.Fault)
    (hdecode : Text.Utf8.decode bytes = .ok chars)
    (h : Toml.load (Text.unifyLineEnds chars) = .error (.longInteger fault)) :
    Spoils bytes (.longInteger fault)
  /-- What stands for the project is no table. -/
  | notATable (document : Toml.Table) (v : Value) (hdenotes : Denotes bytes document)
    (hv : Value.field? "project" document = some v) (h : ∀ project, v ≠ .map project) :
    Spoils bytes (.notATable v.kindName)

/-- A fault of a source tree for which no version is told. -/
def Escapes (tree : FileTree) (top : Address) (fault : Fault) : Prop :=
  ∃ bytes, HasProjectFile tree top bytes ∧ Spoils bytes fault

/-! ## A document -/

theorem ofDocument_eq_ok_some_iff :
    ofDocument document = .ok (some s) ↔ DocumentDeclares document s := by
  constructor
  · intro h
    unfold ofDocument at h
    split at h
    · cases h
    · next project hproject =>
      split at h
      · next version hversion =>
        cases h
        exact ⟨project, hproject, hversion⟩
      · cases h
    · cases h
  · rintro ⟨project, hproject, hversion⟩
    simp only [ofDocument, hproject, hversion]

theorem ofDocument_of_ne_map {v : Value} (hv : Value.field? "project" document = some v)
    (h : ∀ project, v ≠ .map project) : ofDocument document = .error (.notATable v.kindName) := by
  unfold ofDocument
  rw [hv]
  cases v with
  | map project => exact absurd rfl (h project)
  | _ => rfl

theorem exists_of_ofDocument_eq_error (h : ofDocument document = .error fault) :
    ∃ v, Value.field? "project" document = some v ∧ (∀ project, v ≠ .map project) ∧
      fault = .notATable v.kindName := by
  unfold ofDocument at h
  split at h
  · cases h
  · split at h <;> cases h
  · next v hno hv =>
    cases h
    exact ⟨v, hv, hno, rfl⟩

/-! ## The bytes of a file -/

theorem Denotes.ofBytes_eq (h : Denotes bytes document) : ofBytes bytes = ofDocument document := by
  obtain ⟨chars, hdecode, hload⟩ := h
  simp only [ofBytes, hdecode, hload]

/-- Bytes with a fault give it, or those of no document give no version, or else the document
counts. -/
theorem ofBytes_cases (bytes : List UInt8) :
    (∃ fault, Spoils bytes fault ∧ ofBytes bytes = .error fault) ∨
    ((∀ document, ¬ Denotes bytes document) ∧ ofBytes bytes = .ok none) ∨
    ∃ document, Denotes bytes document := by
  unfold ofBytes
  split
  · next fault hdecode => exact .inl ⟨_, .undecodable fault hdecode, rfl⟩
  · next chars hdecode =>
    split
    · next hload =>
      refine .inr (.inl ⟨?_, rfl⟩)
      rintro document ⟨chars', hdecode', hload'⟩
      cases hdecode.symm.trans hdecode'
      cases hload.symm.trans hload'
    · next fault hload => exact .inl ⟨_, .longInteger chars fault hdecode hload, rfl⟩
    · next document hload => exact .inr (.inr ⟨document, chars, hdecode, hload⟩)

theorem Spoils.ofBytes_eq (h : Spoils bytes fault) : ofBytes bytes = .error fault := by
  cases h with
  | undecodable fault h => simp only [ofBytes, h]
  | longInteger chars fault hdecode h => simp only [ofBytes, hdecode, h]
  | notATable document v hdenotes hv h => rw [hdenotes.ofBytes_eq, ofDocument_of_ne_map hv h]

theorem ofBytes_eq_error_iff : ofBytes bytes = .error fault ↔ Spoils bytes fault := by
  refine ⟨fun h => ?_, Spoils.ofBytes_eq⟩
  obtain ⟨fault', hspoils, h'⟩ | ⟨-, h'⟩ | ⟨document, hdenotes⟩ := ofBytes_cases bytes
  · cases h.symm.trans h'
    exact hspoils
  · cases h.symm.trans h'
  · rw [hdenotes.ofBytes_eq] at h
    obtain ⟨v, hv, hno, rfl⟩ := exists_of_ofDocument_eq_error h
    exact .notATable document v hdenotes hv hno

theorem ofBytes_eq_ok_some_iff :
    ofBytes bytes = .ok (some s) ↔ ∃ document, Denotes bytes document ∧
      DocumentDeclares document s := by
  constructor
  · intro h
    obtain ⟨fault, -, h'⟩ | ⟨-, h'⟩ | ⟨document, hdenotes⟩ := ofBytes_cases bytes
    · cases h.symm.trans h'
    · cases h.symm.trans h'
    · rw [hdenotes.ofBytes_eq] at h
      exact ⟨document, hdenotes, ofDocument_eq_ok_some_iff.mp h⟩
  · rintro ⟨document, hdenotes, hdeclares⟩
    rw [hdenotes.ofBytes_eq, ofDocument_eq_ok_some_iff.mpr hdeclares]

/-! ## A source tree -/

theorem HasProjectFile.ofSourceTree_eq (h : HasProjectFile tree top bytes) :
    ofSourceTree tree top = ofBytes bytes := by
  unfold ofSourceTree
  rw [h]

theorem ofSourceTree_of_no_file (h : ∀ bytes, ¬ HasProjectFile tree top bytes) :
    ofSourceTree tree top = .ok none := by
  unfold ofSourceTree
  split
  · next bytes hentry => exact absurd hentry (h bytes)
  all_goals rfl

theorem ofSourceTree_eq_error_iff :
    ofSourceTree tree top = .error fault ↔ Escapes tree top fault := by
  constructor
  · intro h
    by_cases hfile : ∃ bytes, HasProjectFile tree top bytes
    · obtain ⟨bytes, hfile⟩ := hfile
      rw [hfile.ofSourceTree_eq] at h
      exact ⟨bytes, hfile, ofBytes_eq_error_iff.mp h⟩
    · rw [ofSourceTree_of_no_file (not_exists.mp hfile)] at h
      cases h
  · rintro ⟨bytes, hfile, hspoils⟩
    rw [hfile.ofSourceTree_eq, hspoils.ofBytes_eq]

theorem ofSourceTree_eq_ok_some_iff :
    ofSourceTree tree top = .ok (some s) ↔ Declares tree top s := by
  constructor
  · intro h
    by_cases hfile : ∃ bytes, HasProjectFile tree top bytes
    · obtain ⟨bytes, hfile⟩ := hfile
      rw [hfile.ofSourceTree_eq] at h
      obtain ⟨document, hdenotes, hdeclares⟩ := ofBytes_eq_ok_some_iff.mp h
      exact ⟨bytes, document, hfile, hdenotes, hdeclares⟩
    · rw [ofSourceTree_of_no_file (not_exists.mp hfile)] at h
      cases h
  · rintro ⟨bytes, document, hfile, hdenotes, hdeclares⟩
    rw [hfile.ofSourceTree_eq, ofBytes_eq_ok_some_iff.mpr ⟨document, hdenotes, hdeclares⟩]

theorem orUnknown_of_ne_empty (h : s ≠ "") : orUnknown (some s) = s := by
  unfold orUnknown
  split
  · next h' => cases h'
  · next h' => exact absurd (Option.some.inj h') h
  · next h' => exact (Option.some.inj h').symm

/-- A fault that escapes is the answer, a version that is declared and not empty is told, and
without either the version is that for none. -/
theorem source_tree_version (tree : FileTree) (top : Address) :
    (∀ fault, find none tree top = .error fault ↔ Escapes tree top fault) ∧
    (∀ s, s ≠ "" → Declares tree top s → find none tree top = .ok s) ∧
    ((∀ fault, ¬ Escapes tree top fault) → (∀ s, s ≠ "" → ¬ Declares tree top s) →
      find none tree top = .ok "0.0.0") := by
  have hfind : find none tree top = orUnknown <$> ofSourceTree tree top := rfl
  refine ⟨fun fault => ?escapes, fun s hne hdeclares => ?declared, fun hno hnone => ?unknown⟩
  case escapes =>
    rw [← ofSourceTree_eq_error_iff, hfind]
    cases ofSourceTree tree top <;> constructor <;> intro h <;> cases h <;> rfl
  case declared =>
    rw [hfind, ofSourceTree_eq_ok_some_iff.mpr hdeclares]
    exact congrArg Except.ok (orUnknown_of_ne_empty hne)
  case unknown =>
    rw [hfind]
    cases hsource : ofSourceTree tree top with
    | error fault => exact absurd (ofSourceTree_eq_error_iff.mp hsource) (hno fault)
    | ok version =>
        obtain _ | s := version
        · rfl
        · obtain rfl : s = "" := Classical.byContradiction fun hne =>
            hnone s hne (ofSourceTree_eq_ok_some_iff.mp hsource)
          rfl

/-- A source tree with bytes for its project file. -/
def projectOf (bytes : List UInt8) : FileTree :=
  FileTree.empty.insert [projectFileName] (.file bytes)

/-- A project file with a version, one without, and one whose bytes are no text. -/
theorem source_tree_version_cases :
    find none (projectOf "project.version='1'".toUTF8.toList) [] = .ok "1" ∧
    find none (projectOf "version='1'".toUTF8.toList) [] = .ok "0.0.0" ∧
    find none (projectOf [255]) [] = .error (.undecodable ⟨.invalidStart, 255, 0, 1⟩) := by
  have hmarked : ofSourceTree (projectOf "project.version='1'".toUTF8.toList) [] =
      .ok (some "1") := by
    decide +kernel
  have hbare : ofSourceTree (projectOf "version='1'".toUTF8.toList) [] = .ok none := by
    decide +kernel
  have hbytes : ofSourceTree (projectOf [255]) [] =
      .error (.undecodable ⟨.invalidStart, 255, 0, 1⟩) := by
    decide +kernel
  refine ⟨(source_tree_version _ []).2.1 "1" (by decide) (ofSourceTree_eq_ok_some_iff.mp hmarked),
    (source_tree_version _ []).2.2 (fun fault h => ?escapes) (fun s _ h => ?declared),
    ((source_tree_version _ []).1 _).mpr (ofSourceTree_eq_error_iff.mp hbytes)⟩
  case escapes => cases hbare.symm.trans (ofSourceTree_eq_error_iff.mpr h)
  case declared => cases hbare.symm.trans (ofSourceTree_eq_ok_some_iff.mpr h)

/-- A text in place of the project's table is not passed over. -/
theorem textProject_escapes :
    find none (projectOf "project='x'".toUTF8.toList) [] = .error (.notATable "str") ∧
    ¬ ∃ version, find none (projectOf "project='x'".toUTF8.toList) [] = .ok version := by
  have hfind : find none (projectOf "project='x'".toUTF8.toList) [] =
      .error (.notATable "str") := by
    decide +kernel
  refine ⟨hfind, ?_⟩
  rintro ⟨version, hversion⟩
  cases hfind.symm.trans hversion

end Scenario.Version
