import Scenario.Batch

/-! # Classes and files one after another

A batch tells of every class what became of it; a traversal of classes or of files stops at the
first error. Both are told by the same two lists: the errors of the classes in order, and the
specifications of the classes that have none (`specifications_eq`, `parseFiles_eq`). -/

namespace Scenario

variable {settings : Settings} {classes : List ClassDecl} {tree : FileTree} {home : Address}
  {path : Path} {paths : List Path}

/-! ## The first of several errors -/

/-- A result unless there are errors, of which the first counts. -/
def unlessFirst {ε α : Type} (errors : List ε) (a : α) : Except ε α :=
  match errors with
  | [] => .ok a
  | e :: _ => .error e

section unlessFirst

variable {ε α : Type} {errors : List ε} {a b : α} {e : ε}

theorem unlessFirst_eq_ok_iff : unlessFirst errors a = .ok b ↔ errors = [] ∧ a = b := by
  cases errors with
  | nil => simp [unlessFirst]
  | cons e rest => simp [unlessFirst]

theorem unlessFirst_eq_error_iff : unlessFirst errors a = .error e ↔ errors.head? = some e := by
  cases errors with
  | nil => simp [unlessFirst]
  | cons e rest => simp [unlessFirst]

end unlessFirst

/-! ## Classes -/

/-- The error of an outcome. -/
def Outcome.error? (o : Outcome) : Option ParseError :=
  match o.result with
  | .ok _ => none
  | .error e => some e

/-- The errors among outcomes. -/
def errorsOf (os : List Outcome) : List ParseError := os.filterMap (·.error?)

theorem errorsOf_ok_cons {name : String} {spec : Specification} {os : List Outcome} :
    errorsOf (⟨name, .ok spec⟩ :: os) = errorsOf os := rfl

theorem specificationsOf_ok_cons {name : String} {spec : Specification} {os : List Outcome} :
    specificationsOf (⟨name, .ok spec⟩ :: os) = spec :: specificationsOf os := rfl

theorem Outcome.exists_specification_iff (o : Outcome) :
    (∃ spec, o.result = .ok spec) ↔ o.error? = none := by
  unfold error?
  cases o.result <;> simp

/-- An outcome holds a specification or an error, and not both. -/
theorem Outcome.isSome_toOption (o : Outcome) : o.result.toOption.isSome = !o.error?.isSome := by
  unfold error?
  cases o.result <;> rfl

theorem errorsOf_eq_nil_iff {os : List Outcome} :
    errorsOf os = [] ↔ ∀ o ∈ os, ∃ spec, o.result = .ok spec := by
  simp only [errorsOf, List.filterMap_eq_nil_iff, Outcome.exists_specification_iff]

/-- Every class of a batch is built as if it were alone. -/
theorem outcomes_eq (settings : Settings) (classes : List ClassDecl) :
    outcomes settings classes = classes.map fun c => ⟨c.name, c.specification settings⟩ := by
  induction classes with
  | nil => rfl
  | cons c rest ih => exact congrArg (_ :: ·) ih

/-- A traversal of classes ends at the first error of a batch, and else has all its
specifications. -/
theorem specifications_eq (settings : Settings) (classes : List ClassDecl) :
    specifications settings classes =
      unlessFirst (errorsOf (outcomes settings classes))
        (specificationsOf (outcomes settings classes)) := by
  rw [outcomes_eq]
  induction classes with
  | nil => rfl
  | cons c rest ih =>
      rw [specifications] at ih ⊢
      rw [List.mapM_cons, ih, List.map_cons]
      cases c.specification settings with
      | error e => rfl
      | ok spec =>
          rw [errorsOf_ok_cons, specificationsOf_ok_cons]
          cases errorsOf (rest.map _) <;> rfl

/-! ## Files -/

/-- What is wrong with a file: that it cannot be loaded, or else the errors of its classes. -/
def fileErrors (tree : FileTree) (home : Address) (settings : Settings) (path : Path) :
    List FilesError :=
  match loadClasses tree home path with
  | .error e => [.load e]
  | .ok classes => (errorsOf (outcomes settings classes)).map .parse

/-- The specifications of the classes of a file; there are none if it cannot be loaded. -/
def fileSpecifications (tree : FileTree) (home : Address) (settings : Settings) (path : Path) :
    List Specification :=
  match loadClasses tree home path with
  | .error _ => []
  | .ok classes => specificationsOf (outcomes settings classes)

theorem fileErrors_of_eq_ok (h : loadClasses tree home path = .ok classes) :
    fileErrors tree home settings path = (errorsOf (outcomes settings classes)).map .parse := by
  rw [fileErrors, h]

theorem fileSpecifications_of_eq_ok (h : loadClasses tree home path = .ok classes) :
    fileSpecifications tree home settings path = specificationsOf (outcomes settings classes) := by
  rw [fileSpecifications, h]

theorem fileErrors_of_eq_error {e : LoadError} (h : loadClasses tree home path = .error e) :
    fileErrors tree home settings path = [.load e] := by
  rw [fileErrors, h]

theorem fileSpecifications_of_eq_error {e : LoadError} (h : loadClasses tree home path = .error e) :
    fileSpecifications tree home settings path = [] := by
  rw [fileSpecifications, h]

/-- Nothing is wrong with a file that loads and all of whose classes build. -/
theorem fileErrors_eq_nil_iff :
    fileErrors tree home settings path = [] ↔
      ∃ classes, loadClasses tree home path = .ok classes ∧
        ∀ o ∈ outcomes settings classes, ∃ spec, o.result = .ok spec := by
  cases h : loadClasses tree home path with
  | error e => simp [fileErrors_of_eq_error h]
  | ok classes => simp [fileErrors_of_eq_ok h, errorsOf_eq_nil_iff]

/-- A traversal of files ends at the first thing that is wrong with any of them, and else has the
specifications of all. -/
theorem parseFiles_eq (tree : FileTree) (home : Address) (settings : Settings)
    (paths : List Path) :
    parseFiles tree home settings paths =
      unlessFirst (paths.flatMap (fileErrors tree home settings))
        (paths.flatMap (fileSpecifications tree home settings)) := by
  induction paths with
  | nil => rfl
  | cons path rest ih =>
      rw [parseFiles, List.flatMap_cons, List.flatMap_cons]
      cases h : loadClasses tree home path with
      | error e => rw [fileErrors_of_eq_error h]; rfl
      | ok classes =>
          rw [fileErrors_of_eq_ok h, fileSpecifications_of_eq_ok h]
          dsimp only
          rw [specifications_eq, ih]
          -- The errors of the file stand in front of those of the files that follow.
          cases errorsOf (outcomes settings classes) with
          | cons e _ => rfl
          | nil => cases rest.flatMap (fileErrors tree home settings) <;> rfl

/-- A traversal of files told by batches of their classes. -/
structure ParsesByBatches (tree : FileTree) (home : Address) (settings : Settings)
    (paths : List Path) : Prop where
  returns : (∃ specs, parseFiles tree home settings paths = .ok specs) ↔
    ∀ path ∈ paths, ∃ classes, loadClasses tree home path = .ok classes ∧
      ∀ o ∈ outcomes settings classes, ∃ spec, o.result = .ok spec
  /-- The specifications stand in the order of the files, then in that of the declarations. -/
  result : ∀ specs, parseFiles tree home settings paths = .ok specs →
    specs = paths.flatMap (fileSpecifications tree home settings)
  /-- The error is the first of all, where a file that does not load has no classes. -/
  refused : ∀ e, parseFiles tree home settings paths = .error e ↔
    (paths.flatMap (fileErrors tree home settings)).head? = some e

theorem parsesByBatches (tree : FileTree) (home : Address) (settings : Settings)
    (paths : List Path) : ParsesByBatches tree home settings paths where
  returns := by
    rw [parseFiles_eq]
    simp only [unlessFirst_eq_ok_iff, exists_and_left, exists_eq', and_true,
      List.flatMap_eq_nil_iff, fileErrors_eq_nil_iff]
  result specs h := by
    rw [parseFiles_eq, unlessFirst_eq_ok_iff] at h
    exact h.2.symm
  refused e := by
    rw [parseFiles_eq, unlessFirst_eq_error_iff]

end Scenario
