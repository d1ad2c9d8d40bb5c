import Scenario.Proofs.FileTree
import Scenario.Settings.File

/-! # The nearest settings file

From the directory where a search begins, its ancestors lead up to the top (`Address.ancestor`). The
search finds the settings file of the first of them that has one as a regular file
(`FileTree.isNearest_nearestSettings?`). Of the tree, nothing else has a say in it
(`FileTree.IsNearest.of_differsIn`), so that `FileTree.nearest_settings_found` holds of every tree
and of every start that can be looked up. A path with the character NUL cannot
(`FileTree.no_search_from_nul`). -/

namespace Scenario

/-! ## Ancestors -/

namespace Address

variable {a : Address} {i j : Nat}

/-- The directory that lies so many steps above. -/
def ancestor (a : Address) : Nat → Address
  | 0 => a
  | i + 1 => (a.ancestor i).dropLast

theorem ancestor_eq_take (a : Address) (i : Nat) : a.ancestor i = a.take (a.length - i) := by
  induction i with
  | zero => simp [ancestor]
  | succ i ih =>
      rw [ancestor, ih, List.dropLast_eq_take, List.take_take, List.length_take]
      congr 1
      omega

theorem length_ancestor (a : Address) (i : Nat) : (a.ancestor i).length = a.length - i := by
  rw [ancestor_eq_take, List.length_take, Nat.min_eq_left (Nat.sub_le _ _)]

/-- The directories up to the top are the ancestors. -/
theorem upward_eq_map_ancestor (a : Address) :
    a.upward = (List.range (a.length + 1)).map a.ancestor :=
  List.map_congr_left fun i _ => (ancestor_eq_take a i).symm

/-- The place of the settings file in an ancestor. -/
def settingsFile (a : Address) (i : Nat) : Address := a.ancestor i ++ [settingsFileName]

/-- Different ancestors have different places for a settings file. -/
theorem settingsFile_inj (hi : i ≤ a.length) (hj : j ≤ a.length)
    (h : a.settingsFile i = a.settingsFile j) : i = j := by
  have hlength := congrArg List.length (List.append_inj_left' h rfl)
  rw [length_ancestor, length_ancestor] at hlength
  omega

end Address

namespace FileTree

variable {t t' : FileTree} {a d : Address} {found : Option Address} {home start : Path}

/-! ## What is found -/

/-- The settings file that is found upward from a directory, or none. -/
structure IsNearest (t : FileTree) (d : Address) (found : Option Address) : Prop where
  /-- It is that of an ancestor exactly if it is a regular file there, and the ancestors below have
  none. -/
  some_iff : ∀ i ≤ d.length, found = some (d.settingsFile i) ↔
    t.isFile (d.settingsFile i) = true ∧ ∀ j < i, t.isFile (d.settingsFile j) = false
  /-- There is none exactly if no ancestor has one. -/
  none_iff : found = none ↔ ∀ i ≤ d.length, t.isFile (d.settingsFile i) = false
  /-- Directories of that name are passed over. -/
  not_directory : ∀ i, t.entry? (d.settingsFile i) = some .directory →
    found ≠ some (d.settingsFile i)

/-- The search goes through the ancestors in their order. -/
theorem nearestSettings?_eq (t : FileTree) (a : Address) :
    t.nearestSettings? a =
      ((List.range ((t.searchStart a).length + 1)).find? fun i =>
        t.isFile ((t.searchStart a).settingsFile i)).map (t.searchStart a).settingsFile := by
  rw [nearestSettings?, Address.upward_eq_map_ancestor, List.map_map, List.find?_map]
  rfl

theorem isNearest_nearestSettings? (t : FileTree) (a : Address) :
    t.IsNearest (t.searchStart a) (t.nearestSettings? a) := by
  rw [nearestSettings?_eq]
  generalize t.searchStart a = d
  constructor
  case some_iff =>
    intro i hi
    rw [Option.map_eq_some_iff]
    constructor
    · rintro ⟨k, hk, heq⟩
      obtain ⟨hfile, hrange, hbefore⟩ := List.find?_range_eq_some.mp hk
      obtain rfl := Address.settingsFile_inj (Nat.lt_succ_iff.mp (List.mem_range.mp hrange)) hi heq
      exact ⟨hfile, fun j hj => by simpa using hbefore j hj⟩
    · rintro ⟨hfile, hbefore⟩
      refine ⟨i, List.find?_range_eq_some.mpr ⟨hfile, ?_, fun j hj => ?_⟩, rfl⟩
      · exact List.mem_range.mpr (Nat.lt_succ_of_le hi)
      · rw [hbefore j hj]
        rfl
  case none_iff =>
    rw [Option.map_eq_none_iff, List.find?_range_eq_none]
    simp only [Nat.lt_succ_iff, Bool.not_eq_eq_eq_not, Bool.not_true]
  case not_directory =>
    intro i hdirectory h
    obtain ⟨k, hk, heq⟩ := Option.map_eq_some_iff.mp h
    obtain ⟨hfile, -⟩ := List.find?_range_eq_some.mp hk
    rw [heq, isFile_eq_false_of_directory hdirectory] at hfile
    cases hfile

/-! ## What has no say in it -/

/-- A directory whose files have no say in a search: if it is an ancestor of the first directory,
the search ends before it gets there. -/
def IsIdle (t : FileTree) (d dir : Address) : Prop :=
  ∀ j ≤ d.length, dir = d.ancestor j → ∃ i < j, t.isFile (d.settingsFile i) = true

namespace DiffersIn

theorem isFile_settingsFile_eq {i : Nat} (h : DiffersIn (t.IsIdle d) t t') (hi : i ≤ d.length)
    (hbefore : ∀ j < i, t.isFile (d.settingsFile j) = false) :
    t'.isFile (d.settingsFile i) = t.isFile (d.settingsFile i) := by
  refine isFile_congr (h.entry?_eq (fun hidle => ?_) settingsFileName)
  obtain ⟨j, hj, hfile⟩ := hidle i hi rfl
  rw [hbefore j hj] at hfile
  cases hfile

/-- The search begins in the same directory: where it is a file that tells the directory, this one
comes first, and a directory with a settings file does not become a file. -/
theorem searchStart_eq (h : DiffersIn (t.IsIdle (t.searchStart a)) t t') :
    t'.searchStart a = t.searchStart a := by
  have hfile : t'.isFile a = t.isFile a := by
    refine isFile_congr (Decidable.byContradiction fun hne => ?_)
    obtain ⟨hno, -, dir, name, rfl, hidle⟩ := h a hne
    have hparent : (dir ++ [name]).dropLast = dir := List.dropLast_concat
    cases hfile : t.isFile (dir ++ [name]) with
    | true =>
        rw [searchStart, if_pos hfile, hparent] at hidle
        obtain ⟨i, hi, -⟩ := hidle 0 (Nat.zero_le _) rfl
        exact absurd hi (Nat.not_lt_zero i)
    | false =>
        rw [searchStart, hfile, if_neg Bool.false_ne_true] at hidle
        obtain ⟨i, hi, hfound⟩ := hidle 1 (by simp) hparent.symm
        obtain rfl := Nat.lt_one_iff.mp hi
        exact hno (entry?_eq_directory_of_isPrefix hfound (List.prefix_append _ _) (by simp
          [Address.settingsFile, Address.ancestor]) hfile)
  rw [searchStart, searchStart, hfile]

theorem nearestSettings?_eq (h : DiffersIn (t.IsIdle (t.searchStart a)) t t') :
    t'.nearestSettings? a = t.nearestSettings? a := by
  rw [FileTree.nearestSettings?_eq, FileTree.nearestSettings?_eq, h.searchStart_eq]
  congr 1
  cases hfind : (List.range ((t.searchStart a).length + 1)).find? fun i =>
      t.isFile ((t.searchStart a).settingsFile i) with
  | none =>
      simp only [List.find?_range_eq_none, Bool.not_eq_true'] at hfind ⊢
      intro i hi
      rw [h.isFile_settingsFile_eq (Nat.lt_succ_iff.mp hi) fun j hj => hfind j (Nat.lt_trans hj hi)]
      exact hfind i hi
  | some k =>
      simp only [List.find?_range_eq_some, Bool.not_eq_true'] at hfind ⊢
      obtain ⟨hfile, hrange, hbefore⟩ := hfind
      have hk : k ≤ (t.searchStart a).length := Nat.lt_succ_iff.mp (List.mem_range.mp hrange)
      refine ⟨?_, hrange, fun j hj => ?_⟩
      · rw [h.isFile_settingsFile_eq hk hbefore]
        exact hfile
      · rw [h.isFile_settingsFile_eq (Nat.le_trans (Nat.le_of_lt hj) hk)
          fun l hl => hbefore l (Nat.lt_trans hl hj)]
        exact hbefore j hj

end DiffersIn

/-! ## Searches -/

/-- A search can begin at a path: it has no character NUL, and what it names can be looked up, as
well as the settings file in the first directory. -/
structure CanSearch (t : FileTree) (home start : Path) : Prop where
  noNul : start.hasNul = false
  named : ∃ found, t.find [] { home with parts := start.resolve home.parts } = .ok found
  first : ∃ found, t.find [] { home with
    parts := t.searchStart (start.resolve home.parts) ++ [settingsFileName] } = .ok found

theorem exists_eq_ok_iff {ε α : Type} {x : Except ε α} : (∃ a, x = .ok a) ↔ x.isOk = true := by
  cases x <;> simp [Except.isOk, Except.toBool]

theorem canSearch_iff : t.CanSearch home start ↔ start.hasNul = false ∧
    (t.find [] { home with parts := start.resolve home.parts }).isOk = true ∧
    (t.find [] { home with
      parts := t.searchStart (start.resolve home.parts) ++ [settingsFileName] }).isOk = true := by
  rw [← exists_eq_ok_iff, ← exists_eq_ok_iff]
  exact ⟨fun h => ⟨h.noNul, h.named, h.first⟩, fun h => ⟨h.1, h.2.1, h.2.2⟩⟩

instance : Decidable (t.CanSearch home start) := decidable_of_iff' _ canSearch_iff

theorem CanSearch.findSettings_eq (h : t.CanSearch home start) :
    t.findSettings home start = .ok (t.nearestSettings? (start.resolve home.parts)) := by
  obtain ⟨hnul, ⟨_, hnamed⟩, ⟨_, hfirst⟩⟩ := h
  rw [findSettings, hnul, if_neg Bool.false_ne_true]
  dsimp only
  rw [hnamed]
  dsimp only [Bind.bind, Except.bind]
  rw [hfirst]
  rfl

theorem exists_fault_of_not_canSearch (h : ¬ t.CanSearch home start) :
    ∃ fault, t.findSettings home start = .error fault := by
  rw [findSettings]
  split
  · exact ⟨_, rfl⟩
  · next hnul =>
    dsimp only
    cases hnamed : t.find [] { home with parts := start.resolve home.parts } with
    | error fault => exact ⟨fault, rfl⟩
    | ok found =>
        cases hfirst : t.find [] { home with
            parts := t.searchStart (start.resolve home.parts) ++ [settingsFileName] } with
        | error fault => exact ⟨fault, rfl⟩
        | ok found' =>
            exact absurd ⟨Bool.eq_false_iff.mpr hnul, ⟨found, hnamed⟩, ⟨found', hfirst⟩⟩ h

theorem CanSearch.of_differsIn (h : t.CanSearch home start)
    (hdiffers : DiffersIn (t.IsIdle (t.searchStart (start.resolve home.parts))) t t') :
    t'.CanSearch home start := by
  refine ⟨h.noNul, (hdiffers.exists_find_eq_ok_iff _ _).mpr h.named, ?_⟩
  rw [hdiffers.searchStart_eq]
  exact (hdiffers.exists_find_eq_ok_iff _ _).mpr h.first

/-- A directory with settings, and below it a directory in the place of a settings file and a class
beside which there is none. -/
def nestedTree : FileTree :=
  (((FileTree.empty.insert ["work", "specmodel.toml"] (.file [])).insert
    ["work", "specs", "specmodel.toml"] .directory).insert
    ["work", "specs", "stack", "Stack.json"] (.file [])).insert ["work", "other"] .directory

end FileTree
end Scenario
