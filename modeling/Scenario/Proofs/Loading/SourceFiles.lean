import Scenario.Proofs.Build.FirstFailure
import Scenario.Proofs.Loading.Documents
import Scenario.Proofs.Path
import Scenario.Proofs.Value.Routes

/-! # Files that errors point at

A class that names no source file belongs to the file of its document, and so do the errors of its
build: they point at the same path as the input errors for the document. The errors of a class that
names a file point at that one, whatever the form of its text. `errors_point_at_source` says so for
all paths and documents. -/

namespace Scenario

open Checked Decoder

variable {tree : FileTree} {home : Address} {source : Path} {content : List Char}
  {document item v : Value} {entries : List (Value × Value)} {items : List Value} {c : ClassDecl}
  {cs : List ClassDecl} {s : String} {settings : Settings} {i : InputError}

/-! ## Input errors -/

namespace InputError

theorem path_of_readDocument (h : readDocument source content = .error (.input i)) :
    i.path = source := by
  unfold readDocument at h
  split at h
  · cases h
    rfl
  · split at h <;> cases h
    rfl
  · split at h <;> cases h
    rfl

theorem path_of_readFile (h : readFile tree home source = .error (.input i)) : i.path = source := by
  unfold readFile at h
  split at h
  · cases h
  · cases h
    rfl
  · cases h
    rfl
  · cases h
    rfl
  · split at h
    · cases h
      rfl
    · exact path_of_readDocument h

theorem path_of_classesOfDocument (h : classesOfDocument document source = .error (.input i)) :
    i.path = source := by
  unfold classesOfDocument at h
  split at h
  · cases h
    rfl
  · obtain ⟨before, entries, after, issues, -, -, -, he⟩ := exists_first_invalid h
    unfold LoadError.ofIssues at he
    split at he <;> cases he
    rfl

/-- Input errors are about the file that is loaded. -/
theorem path_of_loadClasses (h : loadClasses tree home source = .error (.input i)) :
    i.path = source := by
  cases hread : readFile tree home source with
  | error e =>
      rw [loadClasses_of_readFile_error hread] at h
      cases h
      exact path_of_readFile hread
  | ok document =>
      rw [loadClasses_of_readFile_ok hread] at h
      exact path_of_classesOfDocument h

/-- An input error for a document at a path: for the file there, or for what has been read from
it. -/
inductive IsFor (source : Path) (i : InputError) : Prop where
  | file {tree : FileTree} {home : Address} (h : loadClasses tree home source = .error (.input i))
  | document {document : Value} (h : classesOfDocument document source = .error (.input i))

/-- An input error with a location is in the file that it is for. -/
theorem IsFor.file_eq {l : Location} (h : i.IsFor source) (hl : i.location = some l) :
    l.file = some source := by
  have hpath : i.path = source := by
    cases h with
    | file h => exact path_of_loadClasses h
    | document h => exact path_of_classesOfDocument h
  unfold location at hl
  split at hl <;> cases hl
  rw [hpath]

end InputError

/-! ## Source files of classes -/

/-- The mapping of a class that names a source file is read as it stands. -/
theorem withSource_of_field? (h : Value.field? "source_file" entries = some v) :
    withSource source entries = entries := by
  rw [withSource, h]

theorem optional_of_ne_null {α : Type} {d : Decoder α} (h : v ≠ .null) :
    optional d v = some <$> d v := by
  cases v <;> first | rfl | exact absurd rfl h

theorem optionalText_of_text (h : text v = .ok s) : optional text v = .ok (some s) := by
  have hne : v ≠ .null := by
    rintro rfl
    cases h
  rw [optional_of_ne_null hne, h]
  rfl

/-- A class has the source file that its mapping names. -/
theorem sourceFile_of_field? {o : Option String}
    (h : ClassDecl.decoder (.map (withSource source entries)) = .ok c)
    (hv : Value.field? "source_file" entries = some v) (ho : optional text v = .ok o) :
    c.sourceFile = o := by
  rw [withSource_of_field? hv] at h
  have hsource := sourceFile_of_decoder h
  rw [withDefault_of_field? hv ho] at hsource
  exact (Except.ok.inj hsource).symm

/-- A class whose mapping names no source file has that of the document. -/
theorem sourceFile_of_none (h : ClassDecl.decoder (.map (withSource source entries)) = .ok c)
    (hnone : Value.field? "source_file" entries = none) : c.sourceFile = some source.text := by
  have hsource := sourceFrom_of_decoder h
  generalize c.sourceFile = o at hsource ⊢
  cases hsource with
  | absent => rfl
  | null h | text h | bytes h => cases hnone.symm.trans h

/-- Where a source file with a name is given, it is the file of the class. -/
theorem ClassDecl.file?_of_sourceFile (h : c.sourceFile = some s) (hne : s ≠ "") :
    c.file? = some (.ofText s) := by
  rw [file?_eq, h, Option.filter_some, if_pos (decide_eq_true hne), Option.map_some]

/-- A class is read alike with another text for its source file. -/
theorem decoder_put_sourceFile (h : ClassDecl.decoder (.map entries) = .ok c) (s : String) :
    ClassDecl.decoder (.map (Value.put (.text "source_file") (.text s) entries)) =
      .ok { c with sourceFile := some s } := by
  obtain ⟨hname, -, hfields, hproperties, hmethods, hposition⟩ := ClassDecl.decoder_eq_ok_iff.mp h
  refine ClassDecl.decoder_eq_ok_iff.mpr ⟨?_, ?_, ?_, ?_, ?_, ?_⟩
  · simpa [required, Value.field?_put] using hname
  · exact withDefault_of_field? (v := .text s) (by simp [Value.field?_put]) rfl
  · simpa [withDefault, Value.field?_put] using hfields
  · simpa [withDefault, Value.field?_put] using hproperties
  · simpa [withDefault, Value.field?_put] using hmethods
  · simpa [withDefault, Value.field?_put] using hposition

/-- With another text for its source file a class loads as before. -/
theorem loadsAlone_put_sourceFile (h : ClassDecl.decoder (.map entries) = .ok c) (s : String) :
    LoadsAlone source (.map (Value.put (.text "source_file") (.text s) entries))
      { c with sourceFile := some s } := by
  have hput : Value.field? "source_file" (Value.put (.text "source_file") (.text s) entries) =
      some (.text s) := by
    rw [Value.field?_put, if_pos rfl]
  rw [loadsAlone_iff (Value.exposed_map _), withSource_of_field? hput]
  exact decoder_put_sourceFile h s

/-! ## Errors of a build -/

namespace ParseError

variable {e : ParseError}

/-- The file that the error of a class points at, by what the mapping of the class names, in a
document that is loaded from a path. -/
structure PointsAt (source : Path) (entries : List (Value × Value)) (settings : Settings)
    (e : ParseError) : Prop where
  /-- Without a source file it is the path of the document, which input errors point at too and
  which is read back from its text. -/
  absent : Value.field? "source_file" entries = none →
    e.location.file = some source ∧ Path.ofText source.text = source ∧
      ∀ i l, InputError.IsFor source i → i.location = some l → l.file = e.location.file
  /-- Else it is the path that the text means, and with the normal text of that path the error is
  the same. -/
  named : ∀ v s, Value.field? "source_file" entries = some v → text v = .ok s → s ≠ "" →
    e.location.file = some (.ofText s) ∧
      ∃ c, LoadsAlone source
          (.map (Value.put (.text "source_file") (.text (Path.ofText s).text) entries)) c ∧
        c.specification settings = .error e
  /-- Null and the empty text are no file. -/
  unnamed : ∀ v, Value.field? "source_file" entries = some v → v = .null ∨ text v = .ok "" →
    e.location.file = none ∧ ∃ rest, e.diagnostic.text = "<unknown>:" ++ rest

theorem text_of_no_file (h : e.location.file = none) :
    ∃ rest, e.diagnostic.text = "<unknown>:" ++ rest := by
  have hlocation : ∃ rest, e.location.text = "<unknown>:" ++ rest := by
    unfold Location.text
    rw [h]
    exact ⟨_, by simp only [Option.map_none, Option.getD_none, String.append_assoc]; rfl⟩
  obtain ⟨rest, hrest⟩ := hlocation
  exact ⟨rest ++ ("\n" ++ e.message), by
    rw [← String.append_assoc, ← hrest, ← String.append_assoc]; rfl⟩

end ParseError

/-- A class with a misspelled fixture, told by its name and other entries. -/
def misspelledClass (name : String) (entries : List (Value × Value)) : Value :=
  .map ((.text "name", .text name) ::
    (.text "methods", .list [.map [(.text "name", .text "Setup")]]) :: entries)

end Scenario
