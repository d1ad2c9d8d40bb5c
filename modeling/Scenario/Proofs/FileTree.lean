import Scenario.FileTree

/-! # Trees that differ in files

A tree may differ from another one in the files of some directories and agree with it in everything
else (`FileTree.DiffersIn`), as it does when a file is put into a directory
(`FileTree.differsIn_insert`). Such trees let the same paths be followed
(`FileTree.DiffersIn.exists_find_eq_ok_iff`). -/

namespace Scenario.FileTree

variable {t t' : FileTree} {dirs : Address → Prop} {a dir here home : Address} {name : String}
  {content : List UInt8} {whole p : Path} {parts : List String} {e : FileEntry}

/-! ## Directories and files -/

theorem isFile_congr (h : t'.entry? a = t.entry? a) : t'.isFile a = t.isFile a := by
  rw [isFile, isFile, h]

theorem isFile_eq_false_of_directory (h : t.entry? a = some .directory) : t.isFile a = false := by
  rw [isFile, h]

theorem isDirectory_iff : t.isDirectory a = true ↔
    a = [] ∨ (∃ d ∈ t.directories, a <+: d) ∨ ∃ f ∈ t.files, a <+: f.1 ∧ a ≠ f.1 := by
  simp only [isDirectory, Bool.or_eq_true, List.isEmpty_iff, List.any_eq_true, Bool.and_eq_true,
    List.isPrefixOf_iff_prefix, bne_iff_ne, or_assoc]

/-- Above a directory there are only directories. -/
theorem isDirectory_of_isPrefix (h : t.isDirectory dir = true) (ha : a <+: dir) :
    t.isDirectory a = true := by
  rcases isDirectory_iff.mp h with rfl | ⟨d, hd, hdir⟩ | ⟨f, hf, hdir, hne⟩
  · exact isDirectory_iff.mpr (.inl (List.prefix_nil.mp ha))
  · exact isDirectory_iff.mpr (.inr (.inl ⟨d, hd, ha.trans hdir⟩))
  · refine isDirectory_iff.mpr (.inr (.inr ⟨f, hf, ha.trans hdir, ?_⟩))
    rintro rfl
    exact hne (hdir.eq_of_length_le ha.length_le)

/-- There is a file at an address of the list of files, whether it is locked or not. -/
theorem isFile_iff : t.isFile a = true ↔ ∃ f ∈ t.files, f.1 = a := by
  unfold isFile entry?
  cases hfind : t.files.find? (·.1 == a) with
  | some f =>
      have hf : (f.1 == a) = true :=
        List.find?_some (p := fun f : Address × List UInt8 => f.1 == a) hfind
      refine iff_of_true ?_ ⟨f, List.mem_of_find?_eq_some hfind, beq_iff_eq.mp hf⟩
      cases t.isLocked a <;> rfl
  | none =>
      refine iff_of_false ?_ ?_
      · cases t.isDirectory a <;> exact Bool.false_ne_true
      · rintro ⟨f, hf, rfl⟩
        exact absurd (List.find?_eq_none.mp hfind f hf) (by simp)

/-- A directory stands where no file does and there is one. -/
theorem entry?_eq_directory_iff :
    t.entry? a = some .directory ↔ t.isFile a = false ∧ t.isDirectory a = true := by
  unfold isFile entry?
  cases t.files.find? (·.1 == a) with
  | some f => cases t.isLocked a <;> simp
  | none => cases t.isDirectory a <;> simp

/-- Above a file there are only directories. -/
theorem entry?_eq_directory_of_isPrefix (h : t.isFile a = true) (hdir : dir <+: a) (hne : dir ≠ a)
    (hfile : t.isFile dir = false) : t.entry? dir = some .directory := by
  obtain ⟨f, hf, rfl⟩ := isFile_iff.mp h
  exact entry?_eq_directory_iff.mpr ⟨hfile, isDirectory_iff.mpr (.inr (.inr ⟨f, hf, hdir, hne⟩))⟩

/-- Only what is locked is told to be. -/
theorem isLocked_of_locked (h : t.entry? a = some .locked) : t.isLocked a = true := by
  unfold entry? at h
  cases hfind : t.files.find? (·.1 == a) with
  | some f =>
      rw [hfind] at h
      cases hlocked : t.isLocked a with
      | true => rfl
      | false => simp [hlocked] at h
  | none =>
      rw [hfind] at h
      cases hd : t.isDirectory a <;> simp [hd] at h

/-! ## Paths that are followed -/

theorem entry?_of_follow (h : t.follow whole here parts = .ok (some e)) :
    t.entry? (parts.foldl Address.step here) = some e := by
  induction parts generalizing here with
  | nil => exact Except.ok.inj h
  | cons part parts ih =>
      rw [follow] at h
      split at h
      · cases h
      · split at h
        · cases h
        · exact ih h

/-- What is found when a path is followed stands at the address that the path names. -/
theorem entry?_of_find (h : t.find home p = .ok (some e)) :
    t.entry? (p.resolve home) = some e := by
  unfold find at h
  split at h
  · cases h
  · split at h
    · cases h
    · exact entry?_of_follow h

/-! ## Trees that agree elsewhere -/

/-- The trees differ in files only, each of which lies in a directory of some kind. -/
def DiffersIn (dirs : Address → Prop) (t t' : FileTree) : Prop :=
  ∀ a, t'.entry? a ≠ t.entry? a →
    t.entry? a ≠ some .directory ∧ t'.entry? a ≠ some .directory ∧
      ∃ dir name, a = dir ++ [name] ∧ dirs dir

namespace DiffersIn

theorem entry?_eq (h : DiffersIn dirs t t') (hdir : ¬ dirs dir) (name : String) :
    t'.entry? (dir ++ [name]) = t.entry? (dir ++ [name]) := by
  refine Decidable.byContradiction fun hne => ?_
  obtain ⟨-, -, dir', name', heq, hdirs⟩ := h _ hne
  obtain ⟨rfl, -⟩ := List.append_inj' heq rfl
  exact hdir hdirs

theorem directory_iff (h : DiffersIn dirs t t') (a : Address) :
    t'.entry? a = some .directory ↔ t.entry? a = some .directory := by
  by_cases hsame : t'.entry? a = t.entry? a
  · rw [hsame]
  · obtain ⟨hno, hno', -⟩ := h a hsame
    exact iff_of_false hno' hno

theorem exists_follow_eq_ok_iff (h : DiffersIn dirs t t') :
    (∃ found, t'.follow whole here parts = .ok found) ↔
      ∃ found, t.follow whole here parts = .ok found := by
  induction parts generalizing here with
  | nil => exact iff_of_true ⟨_, rfl⟩ ⟨_, rfl⟩
  | cons part parts ih =>
      simp only [follow, ne_eq, h.directory_iff here]
      split
      · rfl
      · split
        · rfl
        · exact ih

/-- Files have no say in which paths can be followed. -/
theorem exists_find_eq_ok_iff (h : DiffersIn dirs t t') (home : Address) (p : Path) :
    (∃ found, t'.find home p = .ok found) ↔ ∃ found, t.find home p = .ok found := by
  unfold find
  split
  · rfl
  · split
    · rfl
    · exact h.exists_follow_eq_ok_iff

end DiffersIn

/-! ## A file more -/

/-- A file in a directory makes no other directories. -/
theorem isDirectory_insert (hdir : t.isDirectory dir = true) (a : Address) :
    (t.insert (dir ++ [name]) (.file content)).isDirectory a = t.isDirectory a := by
  rw [Bool.eq_iff_iff, isDirectory_iff, isDirectory_iff]
  simp only [insert, List.mem_append, List.mem_singleton, or_and_right, exists_or, exists_eq_left]
  constructor
  · rintro (h | h | h | ⟨ha, hne⟩)
    · exact .inl h
    · exact .inr (.inl h)
    · exact .inr (.inr h)
    · rcases List.prefix_concat_iff.mp ha with h | h
      · exact absurd h hne
      · exact isDirectory_iff.mp (isDirectory_of_isPrefix hdir h)
  · rintro (h | h | h)
    · exact .inl h
    · exact .inr (.inl h)
    · exact .inr (.inr (.inl h))

/-- A file that is put into a directory changes what stands at its own address only. -/
theorem differsIn_insert (dir : Address) (hdir : t.isDirectory dir = true)
    (hnone : t.entry? (dir ++ [name]) = none) (hdirs : dirs dir) :
    DiffersIn dirs t (t.insert (dir ++ [name]) (.file content)) := by
  intro a hne
  by_cases ha : dir ++ [name] = a
  · subst ha
    have hfile : (t.insert (dir ++ [name]) (.file content)).isFile (dir ++ [name]) = true :=
      isFile_iff.mpr ⟨_, List.mem_append_right _ (List.mem_singleton_self _), rfl⟩
    refine ⟨by simp [hnone], fun h => ?_, dir, name, rfl, hdirs⟩
    rw [isFile_eq_false_of_directory h] at hfile
    cases hfile
  · have hfind : (t.insert (dir ++ [name]) (.file content)).files.find? (·.1 == a) =
        t.files.find? (·.1 == a) := by
      rw [insert, List.find?_append, List.find?_singleton]
      simp [ha]
    have hsame : entry? (t.insert (dir ++ [name]) (.file content)) a = t.entry? a := by
      unfold entry?
      rw [hfind, isDirectory_insert hdir]
      rfl
    exact absurd hsame hne

end Scenario.FileTree
