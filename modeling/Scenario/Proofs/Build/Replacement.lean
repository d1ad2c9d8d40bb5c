import Scenario.Proofs.Classification

/-! # Fixtures that take the place of others

Of the fixtures that share a role every later one takes the place of the one before it.
`MethodDecl.unreplaced` leaves out those whose places are taken: the last of every role is left
(`MethodDecl.filter_isFixture_unreplaced`), and all members are. `MethodDecl.replacements` lists who
takes whose place, in the order of those who come; every method that is left out is replaced once
(`MethodDecl.perm_replaced`). -/

namespace Scenario

namespace MethodDecl

variable {m m' m'' : MethodDecl} {ms : List MethodDecl} {r : Role}

/-! ## Shared roles -/

/-- Two methods are fixtures of one role. -/
def SharesRole (m m' : MethodDecl) : Prop := ∃ r : Role, m.IsFixture r ∧ m'.IsFixture r

instance (m m' : MethodDecl) : Decidable (m.SharesRole m') :=
  decidable_of_iff (∃ r ∈ Role.all, m.IsFixture r ∧ m'.IsFixture r)
    ⟨fun ⟨r, _, h⟩ => ⟨r, h⟩, fun ⟨r, h⟩ => ⟨r, r.mem_all, h⟩⟩

theorem SharesRole.symm (h : m.SharesRole m') : m'.SharesRole m := by
  obtain ⟨r, hm, hm'⟩ := h
  exact ⟨r, hm', hm⟩

theorem SharesRole.trans (h : m.SharesRole m') (h' : m'.SharesRole m'') : m.SharesRole m'' := by
  obtain ⟨r, hm, hm'⟩ := h
  obtain ⟨r', hm₁, hm₂⟩ := h'
  obtain rfl := hm'.unique hm₁
  exact ⟨r, hm, hm₂⟩

/-- The fixture of a role shares its role with the fixtures of that role. -/
theorem IsFixture.sharesRole_iff (h : m.IsFixture r) : m'.SharesRole m ↔ m'.IsFixture r := by
  constructor
  · rintro ⟨r', hm', hm⟩
    obtain rfl := hm.unique h
    exact hm'
  · intro hm'
    exact ⟨r, hm', h⟩

/-! ## What is left -/

/-- The methods whose places later ones take. -/
def replaced : List MethodDecl → List MethodDecl
  | [] => []
  | m :: ms => if ∃ m' ∈ ms, m'.SharesRole m then m :: replaced ms else replaced ms

/-- The methods without those whose places later ones take. -/
def unreplaced : List MethodDecl → List MethodDecl
  | [] => []
  | m :: ms => if ∃ m' ∈ ms, m'.SharesRole m then unreplaced ms else m :: unreplaced ms

theorem unreplaced_sublist (ms : List MethodDecl) : (unreplaced ms).Sublist ms := by
  induction ms with
  | nil => exact .slnil
  | cons m ms ih =>
      unfold unreplaced
      split
      · exact ih.cons m
      · exact ih.cons_cons m

/-- Every method is left, or its place is taken. -/
theorem perm_replaced_append_unreplaced (ms : List MethodDecl) :
    (replaced ms ++ unreplaced ms).Perm ms := by
  induction ms with
  | nil => exact .refl _
  | cons m ms ih =>
      unfold replaced unreplaced
      split
      · exact ih.cons m
      · exact List.perm_middle.trans (ih.cons m)

/-- No member is left out. -/
theorem filter_isMember_unreplaced (ms : List MethodDecl) :
    (unreplaced ms).filter (·.IsMember) = ms.filter (·.IsMember) := by
  induction ms with
  | nil => rfl
  | cons m ms ih =>
      unfold unreplaced
      split
      · rename_i h
        obtain ⟨m', -, r, -, hm⟩ := h
        rw [ih, List.filter_cons_of_neg (by simpa using hm.not_isMember)]
      · rw [List.filter_cons, List.filter_cons, ih]

/-- Of the fixtures of a role the last one is left. -/
theorem filter_isFixture_unreplaced (ms : List MethodDecl) (r : Role) :
    (unreplaced ms).filter (·.IsFixture r) = (ms.filter (·.IsFixture r)).getLast?.toList := by
  induction ms with
  | nil => rfl
  | cons m ms ih =>
      by_cases hr : m.IsFixture r
      · rw [List.filter_cons_of_pos (by simpa using hr), List.getLast?_cons]
        simp only [unreplaced, hr.sharesRole_iff]
        split
        · rename_i h
          obtain ⟨m', hm', hr'⟩ := h
          have hmem : m' ∈ ms.filter (·.IsFixture r) :=
            List.mem_filter.mpr ⟨hm', decide_eq_true hr'⟩
          obtain ⟨last, hlast⟩ := Option.ne_none_iff_exists'.mp
            (mt List.getLast?_eq_none_iff.mp (List.ne_nil_of_mem hmem))
          rw [ih, hlast]
          rfl
        · rename_i h
          have hnone : ms.filter (·.IsFixture r) = [] := by
            refine List.filter_eq_nil_iff.mpr fun m' hm' hr' => h ⟨m', hm', ?_⟩
            exact of_decide_eq_true hr'
          rw [List.filter_cons_of_pos (by simpa using hr), ih, hnone]
          rfl
      · rw [List.filter_cons_of_neg (by simpa using hr), unreplaced]
        split
        · exact ih
        · rw [List.filter_cons_of_neg (by simpa using hr), ih]

/-- Every fixture is declared once at most when no replaced one is left. -/
theorem countP_isFixture_unreplaced_le (ms : List MethodDecl) (r : Role) :
    (unreplaced ms).countP (·.IsFixture r) ≤ 1 := by
  rw [List.countP_eq_length_filter, filter_isFixture_unreplaced]
  cases (ms.filter (·.IsFixture r)).getLast? <;> simp

/-- Where every fixture is declared once at most, none is replaced. -/
theorem replaced_eq_nil (h : ∀ r : Role, ms.countP (·.IsFixture r) ≤ 1) : replaced ms = [] := by
  induction ms with
  | nil => rfl
  | cons m ms ih =>
      have hrest : ∀ r : Role, ms.countP (·.IsFixture r) ≤ 1 := fun r =>
        Nat.le_trans ((List.sublist_cons_self m ms).countP_le) (h r)
      have halone : ¬∃ m' ∈ ms, m'.SharesRole m := by
        rintro ⟨m', hmem, r, hm', hm⟩
        have hpos : 0 < ms.countP (·.IsFixture r) :=
          List.countP_pos_iff.mpr ⟨m', hmem, decide_eq_true hm'⟩
        have hcount := h r
        rw [List.countP_cons_of_pos (by simpa using hm)] at hcount
        omega
      rw [replaced, if_neg halone, ih hrest]

end MethodDecl

/-! ## Who takes whose place -/

/-- A method that takes the place of another one. -/
structure Replacement where
  old : MethodDecl
  new : MethodDecl

/-- The new method is the next one after the old one that shares its role. -/
def Replacement.In (p : Replacement) (ms : List MethodDecl) : Prop :=
  p.old.SharesRole p.new ∧ ∃ front between rest,
    ms = front ++ p.old :: (between ++ p.new :: rest) ∧ ∀ m ∈ between, ¬m.SharesRole p.new

namespace MethodDecl

variable {ms before : List MethodDecl}

/-- The methods that take the place of one before them, each with the last such one. The methods
`before` stand in front, the last of them first. -/
def replacements (before : List MethodDecl) : List MethodDecl → List Replacement
  | [] => []
  | m :: ms =>
    ((before.find? (·.SharesRole m)).map (Replacement.mk · m)).toList ++
      replacements (m :: before) ms

/-- Every replacement stands in the methods. -/
theorem in_of_mem_replacements {p : Replacement} (hp : p ∈ replacements before ms) :
    p.In (before.reverse ++ ms) := by
  induction ms generalizing before with
  | nil => exact absurd hp List.not_mem_nil
  | cons m ms ih =>
      rcases List.mem_append.mp hp with hp | hp
      · rw [Option.mem_toList, Option.map_eq_some_iff] at hp
        obtain ⟨old, hold, rfl⟩ := hp
        obtain ⟨hshares, skipped, front, hbefore, hskipped⟩ :=
          List.find?_eq_some_iff_append.mp hold
        refine ⟨of_decide_eq_true hshares, front.reverse, skipped.reverse, ms, ?_, ?_⟩
        · simp [hbefore]
        · intro m' hm' h
          have hno := hskipped m' (List.mem_reverse.mp hm')
          simp [h] at hno
      · have hin := ih hp
        rwa [List.reverse_cons, List.append_assoc] at hin

/-- The methods that take places stand in the order of their declarations. -/
theorem map_new_replacements_sublist (before ms : List MethodDecl) :
    ((replacements before ms).map (·.new)).Sublist ms := by
  induction ms generalizing before with
  | nil => exact .slnil
  | cons m ms ih =>
      rw [replacements, List.map_append]
      cases before.find? (·.SharesRole m) with
      | none => exact (ih (m :: before)).cons m
      | some old => exact (ih (m :: before)).cons_cons m

/-- With one more method the last one that shares its role is replaced too. -/
theorem perm_replaced_append_singleton (ms : List MethodDecl) (m : MethodDecl) :
    (replaced (ms ++ [m])).Perm
      (replaced ms ++ (ms.reverse.find? (·.SharesRole m)).toList) := by
  induction ms with
  | nil => exact .refl _
  | cons x xs ih =>
      have hsplit : (∃ m' ∈ xs ++ [m], m'.SharesRole x) ↔
          (∃ m' ∈ xs, m'.SharesRole x) ∨ m.SharesRole x := by
        simp [or_and_right, exists_or]
      rw [List.cons_append, List.reverse_cons, List.find?_append, replaced, replaced]
      cases hfind : xs.reverse.find? (·.SharesRole m) with
      | some y =>
          -- A later one takes the place of `x`, if any does: `y` stands behind it.
          have hmem : y ∈ xs := List.mem_reverse.mp (List.mem_of_find?_eq_some hfind)
          have hy : y.SharesRole m := by simpa using List.find?_some hfind
          have hx : (∃ m' ∈ xs ++ [m], m'.SharesRole x) ↔ ∃ m' ∈ xs, m'.SharesRole x := by
            rw [hsplit]
            exact ⟨fun h => h.elim id fun hm => ⟨y, hmem, hy.trans hm⟩, .inl⟩
          rw [hfind] at ih
          simp only [hx]
          split
          · exact ih.cons x
          · exact ih
      | none =>
          have hno : ∀ y ∈ xs, ¬y.SharesRole m := by simpa using hfind
          rw [hfind, Option.toList_none, List.append_nil] at ih
          by_cases hm : x.SharesRole m
          · -- The new method takes the place of `x`, which no other one does.
            have hx : ¬∃ m' ∈ xs, m'.SharesRole x := by
              rintro ⟨y, hy, hyx⟩
              exact hno y hy (hyx.trans hm)
            rw [if_pos (hsplit.mpr (.inr hm.symm)), if_neg hx]
            simp only [hm, decide_true, List.find?_cons_of_pos, Option.none_or,
              Option.toList_some]
            exact (ih.cons x).trans (List.perm_append_singleton x (replaced xs)).symm
          · have hx : (∃ m' ∈ xs ++ [m], m'.SharesRole x) ↔ ∃ m' ∈ xs, m'.SharesRole x := by
              rw [hsplit]
              exact ⟨fun h => h.elim id fun hmx => absurd hmx.symm hm, .inl⟩
            simp only [hx, hm, decide_false, Bool.false_eq_true, not_false_eq_true,
              List.find?_cons_of_neg, List.find?_nil, Option.or_none, Option.toList_none,
              List.append_nil]
            split
            · exact ih.cons x
            · exact ih

/-- Every method that is replaced is so once. -/
theorem perm_replaced (before ms : List MethodDecl) :
    (replaced (before.reverse ++ ms)).Perm
      (replaced before.reverse ++ (replacements before ms).map (·.old)) := by
  induction ms generalizing before with
  | nil => simp [replacements]
  | cons m ms ih =>
      have hstep := perm_replaced_append_singleton before.reverse m
      have hrest := ih (m :: before)
      have holds : ((replacements before (m :: ms)).map (·.old)) =
          (before.find? (·.SharesRole m)).toList ++
            (replacements (m :: before) ms).map (·.old) := by
        rw [replacements, List.map_append]
        cases before.find? (·.SharesRole m) <;> rfl
      rw [List.reverse_reverse] at hstep
      rw [List.reverse_cons, List.append_assoc] at hrest
      rw [holds, ← List.append_assoc]
      exact hrest.trans (hstep.append_right _)

end MethodDecl

end Scenario
