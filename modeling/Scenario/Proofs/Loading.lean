import Scenario.Loading
import Scenario.Proofs.Yaml.Faults

/-! # Failures of loading

A file that is not loaded is refused with an input error, unless one of four failures escapes: its
path cannot be followed, a whole number of a JSON document or a scalar of a YAML document cannot be
read, or the class that is refused has a name that cannot be written. `answered_iff_not_escapes`
says that there is no other way, and `Escapes.hasFault` where the scalar is found. -/

namespace Scenario

variable {tree : FileTree} {home : Address} {path : Path} {content : List Char} {document : Value}
  {entries : List (Value × Value)} {rest : List (List (Value × Value))} {index : Nat}
  {e : LoadError}

/-- A class is read from the entries of a mapping, in a document at a path. -/
def Describes (source : Path) (entries : List (Value × Value)) : Prop :=
  ∃ c, ClassDecl.decoder (.map (withSource source entries)) = .ok c

-- By `rfl`, since the general unfolding of the recursion looks into the decoder.
theorem readClasses_cons : readClasses path index (entries :: rest) =
    match ClassDecl.decoder (.map (withSource path entries)) with
    | .error issues => .error (.ofIssues path index entries issues)
    | .ok c => (c :: ·) <$> readClasses path (index + 1) rest := by rfl

/-- What keeps classes from being read is the first mapping that describes none. -/
theorem exists_first_invalid {es : List (List (Value × Value))}
    (h : readClasses path index es = .error e) :
    ∃ before entries after issues, es = before ++ entries :: after ∧
      (∀ b ∈ before, Describes path b) ∧
      ClassDecl.decoder (.map (withSource path entries)) = .error issues ∧
      e = .ofIssues path (index + before.length) entries issues := by
  induction es generalizing index with
  | nil => cases h
  | cons entries rest ih =>
      rw [readClasses_cons] at h
      cases hd : ClassDecl.decoder (.map (withSource path entries)) with
      | error issues =>
          rw [hd] at h
          exact ⟨[], entries, rest, issues, rfl, nofun, hd, (Except.error.inj h).symm⟩
      | ok c =>
          rw [hd] at h
          cases hrest : readClasses path (index + 1) rest with
          | ok cs =>
              rw [hrest] at h
              cases h
          | error e' =>
              rw [hrest] at h
              obtain rfl : e' = e := Except.error.inj h
              obtain ⟨before, entries', after, issues, rfl, hbefore, hinvalid, he⟩ := ih hrest
              refine ⟨entries :: before, entries', after, issues, rfl, ?_, hinvalid, ?_⟩
              · exact List.forall_mem_cons.mpr ⟨⟨c, hd⟩, hbefore⟩
              · rw [he, List.length_cons, Nat.add_right_comm, Nat.add_assoc]

/-- The first mapping that describes no class is told of, whatever follows it. -/
theorem readClasses_of_first_invalid {before after : List (List (Value × Value))}
    {issues : List Issue} (hbefore : ∀ b ∈ before, Describes path b)
    (hinvalid : ClassDecl.decoder (.map (withSource path entries)) = .error issues) :
    readClasses path index (before ++ entries :: after) =
      .error (.ofIssues path (index + before.length) entries issues) := by
  induction before generalizing index with
  | nil =>
      rw [List.nil_append, readClasses_cons, hinvalid]
      rfl
  | cons b before ih =>
      obtain ⟨⟨c, hc⟩, hbefore⟩ := List.forall_mem_cons.mp hbefore
      rw [List.cons_append, readClasses_cons, hc, List.length_cons]
      dsimp only
      rw [ih hbefore, Nat.add_right_comm, Nat.add_assoc]
      rfl

/-! ## Answers and escapes -/

/-- Loading a file gives its classes or an input error. -/
def Answered (tree : FileTree) (home : Address) (path : Path) : Prop :=
  ∀ e, loadClasses tree home path = .error e → ∃ i, e = .input i

instance (tree : FileTree) (home : Address) (path : Path) : Decidable (Answered tree home path) :=
  match h : loadClasses tree home path with
  | .ok _ => .isTrue fun _ he => nomatch h.symm.trans he
  | .error (.input i) => .isTrue fun _ he => ⟨i, Except.error.inj (he.symm.trans h)⟩
  | .error (.longInteger _) | .error (.scalar _) | .error (.path _) =>
    .isFalse fun hanswered => nomatch hanswered _ h

/-- The text of a file: the characters that its bytes stand for, with unified line ends. -/
def HasText (tree : FileTree) (home : Address) (path : Path) (content : List Char) : Prop :=
  ∃ bytes chars, tree.find home path = .ok (some (.file bytes)) ∧
    Text.Utf8.decode bytes = .ok chars ∧ content = Text.unifyLineEnds chars

/-- A failure of loading that is not told as an input error. -/
inductive Escapes (tree : FileTree) (home : Address) (path : Path) : LoadError → Prop where
  /-- The path cannot be followed. -/
  | path (fault : PathFault) (h : tree.find home path = .error fault) :
    Escapes tree home path (.path fault)
  /-- A whole number of a JSON document is too long to be read. -/
  | longInteger (content : List Char) (digits : Nat) (htext : HasText tree home path content)
    (hformat : Format.ofSuffix? path.suffix = some .json)
    (h : Json.ofChars content = .error (.longInteger digits)) :
    Escapes tree home path (.longInteger (.read digits))
  /-- A scalar of a YAML document cannot be read. -/
  | scalar (content : List Char) (fault : Yaml.ScalarFault) (htext : HasText tree home path content)
    (hformat : Format.ofSuffix? path.suffix = some .yaml)
    (h : Yaml.load content = .error (.scalar fault)) :
    Escapes tree home path (.scalar fault)
  /-- The first class that is not as it should be has a name with a whole number that is too long to
  be written. -/
  | name (document : Value) (before after : List (List (Value × Value)))
    (entries : List (Value × Value)) (issues : List Issue) (fault : Digits.Fault)
    (hread : readFile tree home path = .ok document)
    (hentries : classEntries? document = some (before ++ entries :: after))
    (hbefore : ∀ b ∈ before, Describes path b)
    (hinvalid : ClassDecl.decoder (.map (withSource path entries)) = .error issues)
    (hname : entryName before.length entries = .error fault) :
    Escapes tree home path (.longInteger fault)

theorem HasText.readFile_eq (h : HasText tree home path content) :
    readFile tree home path = readDocument path content := by
  obtain ⟨bytes, chars, hfind, hdecode, rfl⟩ := h
  rw [readFile, hfind]
  dsimp only
  rw [hdecode]

theorem loadClasses_of_readFile_error (h : readFile tree home path = .error e) :
    loadClasses tree home path = .error e := by
  rw [loadClasses, h]
  rfl

theorem loadClasses_of_readFile_ok (h : readFile tree home path = .ok document) :
    loadClasses tree home path = classesOfDocument document path := by
  rw [loadClasses, h]
  rfl

/-- What escapes is a failure of loading. -/
theorem Escapes.loadClasses_eq (h : Escapes tree home path e) :
    loadClasses tree home path = .error e := by
  cases h with
  | path fault h =>
      refine loadClasses_of_readFile_error ?_
      rw [readFile, h]
  | longInteger content digits htext hformat h =>
      refine loadClasses_of_readFile_error ?_
      rw [htext.readFile_eq, readDocument, hformat]
      dsimp only
      rw [h]
  | scalar content fault htext hformat h =>
      refine loadClasses_of_readFile_error ?_
      rw [htext.readFile_eq, readDocument, hformat]
      dsimp only
      rw [h]
  | name document before after entries issues fault hread hentries hbefore hinvalid hname =>
      rw [loadClasses_of_readFile_ok hread, classesOfDocument, hentries]
      dsimp only
      rw [readClasses_of_first_invalid hbefore hinvalid, LoadError.ofIssues, Nat.zero_add, hname]

/-- What escapes is no input error. -/
theorem Escapes.ne_input (h : Escapes tree home path e) (i : InputError) : e ≠ .input i := by
  rintro rfl
  cases h

/-- The fault of a scalar that escapes lies in the text of the file. -/
theorem Escapes.hasFault {fault : Yaml.ScalarFault} (h : Escapes tree home path (.scalar fault)) :
    ∃ content, HasText tree home path content ∧ Yaml.HasFault content fault := by
  cases h with
  | scalar content fault htext hformat h =>
      exact ⟨content, htext, Yaml.hasFault_of_load h⟩

/-- What keeps a text from being read as a document is told as an input error or escapes. -/
theorem input_or_escapes_of_readDocument (htext : HasText tree home path content)
    (h : readDocument path content = .error e) :
    (∃ i, e = .input i) ∨ Escapes tree home path e := by
  unfold readDocument at h
  split at h
  · cases h
    exact .inl ⟨_, rfl⟩
  · next hformat =>
    split at h
    · cases h
    · next digits hjson =>
      cases h
      exact .inr (.longInteger content digits htext hformat hjson)
    · cases h
      exact .inl ⟨_, rfl⟩
  · next hformat =>
    split at h
    · cases h
    · cases h
      exact .inl ⟨_, rfl⟩
    · next fault hyaml =>
      cases h
      exact .inr (.scalar content fault htext hformat hyaml)

/-- What keeps a file from being read is told as an input error or escapes. -/
theorem input_or_escapes_of_readFile (h : readFile tree home path = .error e) :
    (∃ i, e = .input i) ∨ Escapes tree home path e := by
  unfold readFile at h
  split at h
  · next fault hfind =>
    cases h
    exact .inr (.path fault hfind)
  · cases h
    exact .inl ⟨_, rfl⟩
  · cases h
    exact .inl ⟨_, rfl⟩
  · cases h
    exact .inl ⟨_, rfl⟩
  · next bytes hfind =>
    split at h
    · cases h
      exact .inl ⟨_, rfl⟩
    · next chars hdecode =>
      exact input_or_escapes_of_readDocument ⟨bytes, chars, hfind, hdecode, rfl⟩ h

/-- What keeps the classes of a document from being read is told as an input error or escapes. -/
theorem input_or_escapes_of_classesOfDocument (hread : readFile tree home path = .ok document)
    (h : classesOfDocument document path = .error e) :
    (∃ i, e = .input i) ∨ Escapes tree home path e := by
  unfold classesOfDocument at h
  split at h
  · cases h
    exact .inl ⟨_, rfl⟩
  · next es hentries =>
    obtain ⟨before, entries, after, issues, rfl, hbefore, hinvalid, he⟩ :=
      exists_first_invalid h
    rw [LoadError.ofIssues, Nat.zero_add] at he
    split at he
    · exact .inl ⟨_, he⟩
    · next fault hname =>
      rw [he]
      exact .inr
        (.name document before after entries issues fault hread hentries hbefore hinvalid hname)

theorem input_or_escapes (h : loadClasses tree home path = .error e) :
    (∃ i, e = .input i) ∨ Escapes tree home path e := by
  cases hread : readFile tree home path with
  | error e' =>
      rw [loadClasses_of_readFile_error hread] at h
      cases h
      exact input_or_escapes_of_readFile hread
  | ok document =>
      rw [loadClasses_of_readFile_ok hread] at h
      exact input_or_escapes_of_classesOfDocument hread h

/-- A file is answered unless a failure escapes. -/
theorem answered_iff_not_escapes : Answered tree home path ↔ ∀ e, ¬ Escapes tree home path e := by
  constructor
  · intro h e hescapes
    obtain ⟨i, rfl⟩ := h e hescapes.loadClasses_eq
    exact hescapes.ne_input i rfl
  · intro h e hload
    exact (input_or_escapes hload).resolve_right (h e)

end Scenario
