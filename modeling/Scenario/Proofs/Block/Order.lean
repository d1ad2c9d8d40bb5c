import Scenario.Proofs.Block.Walk

/-! # Labels in order

Labels are told one by one whether they break the grammar (`BlockKind.BreaksAt`): by the kind of a
label and that of the label before it, and nothing else. Labels that lead from the block that is
open to another one (`BlockKind.Leads`) do not, and what may come after them is told by the block
that they lead to (`BlockKind.Leads.inOrder_append_singleton_iff`,
`BlockKind.mem_successorLabels_iff`).

A body that cannot be assembled fails in one of two ways (`Block.Fails`): at a label, to which the
labels before it lead, or at its end, to which all labels lead. -/

namespace Scenario

/-- A label is unknown when it is none of those in the table. -/
theorem BlockKind.ofLabel?_eq_none_iff {label : String} :
    ofLabel? label = none ↔ label ∉ BlockKind.labels := by
  have hall (k : BlockKind) : k ∈ all := by cases k <;> decide
  rw [Option.eq_none_iff_forall_ne_some, BlockKind.labels, List.mem_filterMap]
  simp only [hall, true_and, not_exists, ← ofLabel?_eq_some_iff, ne_eq]

namespace Block

variable {after kind : BlockKind} {label : String} {fault : LabelFault}

/-- A label opens no block when no kind has it, or when its kind may not follow. -/
theorem next_eq_error_iff :
    next after label = .error fault ↔
      label ∉ BlockKind.labels ∧ fault = .unknown label ∨
        ∃ kind, BlockKind.ofLabel? label = some kind ∧ after.allows kind = false ∧
          fault = .misplaced kind after := by
  unfold next
  rw [← BlockKind.ofLabel?_eq_none_iff]
  cases hl : BlockKind.ofLabel? label with
  | none =>
      simp only [Except.error.injEq, true_and, reduceCtorEq, false_and, exists_false, or_false]
      exact eq_comm
  | some kind =>
      cases ha : after.allows kind with
      | true => simp [ha]
      | false =>
          simp only [ha, Bool.false_eq_true, if_false, Except.error.injEq, reduceCtorEq, false_and,
            false_or, Option.some.injEq, exists_eq_left', true_and]
          exact eq_comm

end Block

namespace BlockKind

variable {start kind : BlockKind} {label : String} {labels rest : List String} {i : Nat}

/-! ## Labels that break the grammar -/

/-- The kind of the block that is open before the label at a place: that of the label before it. -/
def openBefore (start : BlockKind) (labels : List String) : Nat → Option BlockKind
  | 0 => some start
  | i + 1 => labels[i]?.bind ofLabel?

/-- The label at a place breaks the grammar, when labels are read after a block of the kind
`start`. -/
inductive BreaksAt (start : BlockKind) (labels : List String) (i : Nat) : Prop where
  /-- The label is none of those in the table. -/
  | unknown (label : String) (hl : labels[i]? = some label) (h : label ∉ BlockKind.labels)
  /-- Its kind may not follow that of the label before it. -/
  | misplaced (label : String) (kind after : BlockKind) (hl : labels[i]? = some label)
      (hk : ofLabel? label = some kind) (ha : openBefore start labels i = some after)
      (h : after.allows kind = false)

/-- No label breaks the grammar. -/
def InOrder (start : BlockKind) (labels : List String) : Prop := ∀ i, ¬BreaksAt start labels i

theorem BreaksAt.lt_length (h : BreaksAt start labels i) : i < labels.length := by
  cases h with
  | unknown label hl h => exact (List.getElem?_eq_some_iff.mp hl).1
  | misplaced label kind after hl hk ha h => exact (List.getElem?_eq_some_iff.mp hl).1

/-- The first label breaks the grammar when it opens no block. -/
theorem breaksAt_zero_iff :
    BreaksAt start (label :: labels) 0 ↔ ∃ fault, Block.next start label = .error fault := by
  simp only [Block.next_eq_error_iff]
  constructor
  · intro h
    cases h with
    | unknown label hl h =>
        cases hl
        exact ⟨_, .inl ⟨h, rfl⟩⟩
    | misplaced label kind after hl hk ha h =>
        cases hl
        cases ha
        exact ⟨_, .inr ⟨kind, hk, h, rfl⟩⟩
  · rintro ⟨fault, ⟨h, -⟩ | ⟨kind, hk, h, -⟩⟩
    · exact .unknown label rfl h
    · exact .misplaced label kind start rfl hk rfl h

theorem openBefore_succ (h : kind.label? = some label) (i : Nat) :
    openBefore start (label :: labels) (i + 1) = openBefore kind labels i := by
  cases i with
  | zero => exact ofLabel?_label? h
  | succ i => rfl

/-- A later label breaks the grammar when it does after the block that the first one opens. -/
theorem breaksAt_succ_iff (h : kind.label? = some label) :
    BreaksAt start (label :: labels) (i + 1) ↔ BreaksAt kind labels i := by
  constructor
  · intro hbreak
    cases hbreak with
    | unknown l hl h' => exact .unknown l hl h'
    | misplaced l k after hl hk ha h' =>
        exact .misplaced l k after hl hk ((openBefore_succ h i).symm.trans ha) h'
  · intro hbreak
    cases hbreak with
    | unknown l hl h' => exact .unknown l hl h'
    | misplaced l k after hl hk ha h' =>
        exact .misplaced l k after hl hk ((openBefore_succ h i).trans ha) h'

/-! ## Labels that lead on -/

/-- Read after a block of one kind, labels lead to a block of another. -/
inductive Leads : BlockKind → List String → BlockKind → Prop where
  /-- Without labels the same block is open. -/
  | stay (kind : BlockKind) : Leads kind [] kind
  /-- A label opens a block. -/
  | step {after kind last : BlockKind} {label : String} {labels : List String}
      (hl : kind.label? = some label) (h : after.allows kind = true) (w : Leads kind labels last) :
    Leads after (label :: labels) last

namespace Leads

/-- Labels that lead on do not break the grammar, whatever follows them. -/
theorem not_breaksAt (w : Leads start labels kind) (hi : i < labels.length) :
    ¬BreaksAt start (labels ++ rest) i := by
  induction w generalizing i with
  | stay kind => exact absurd hi (Nat.not_lt_zero i)
  | step hl h w ih =>
      cases i with
      | zero =>
          rw [List.cons_append, breaksAt_zero_iff, Block.next_eq_ok_iff.mpr ⟨hl, h⟩]
          exact nofun
      | succ i =>
          rw [List.cons_append, breaksAt_succ_iff hl]
          exact ih (Nat.lt_of_succ_lt_succ hi)

/-- What follows labels breaks the grammar where it does after the block that they lead to. -/
theorem breaksAt_append_iff (w : Leads start labels kind) :
    BreaksAt start (labels ++ rest) (labels.length + i) ↔ BreaksAt kind rest i := by
  induction w with
  | stay kind => rw [List.nil_append, List.length_nil, Nat.zero_add]
  | step hl h w ih =>
      rw [List.cons_append, List.length_cons, Nat.add_right_comm, breaksAt_succ_iff hl, ih]

theorem inOrder (w : Leads start labels kind) : InOrder start labels := by
  intro i h
  rw [← List.append_nil labels] at h
  exact w.not_breaksAt (by simpa using h.lt_length) h

/-- Labels stay in order when one is added that opens a block after the one that they lead to. -/
theorem inOrder_append_singleton_iff (w : Leads start labels kind) :
    InOrder start (labels ++ [label]) ↔
      ∃ next : BlockKind, next.label? = some label ∧ kind.allows next = true := by
  have hlast : BreaksAt kind [label] 0 ↔
      ¬∃ next : BlockKind, next.label? = some label ∧ kind.allows next = true := by
    simp only [← Block.next_eq_ok_iff, breaksAt_zero_iff]
    cases Block.next kind label <;> simp
  constructor
  · intro h
    have hnot := h (labels.length + 0)
    rwa [w.breaksAt_append_iff, hlast, Classical.not_not] at hnot
  · intro hnext i h
    rcases Nat.lt_or_ge i labels.length with hi | hi
    · exact w.not_breaksAt hi h
    · obtain ⟨j, rfl⟩ := Nat.exists_eq_add_of_le hi
      rw [w.breaksAt_append_iff] at h
      obtain rfl : j = 0 := Nat.lt_one_iff.mp h.lt_length
      exact hlast.mp h hnext

/-- A body may end after labels when it may end after the block that they lead to. -/
theorem exists_walk_iff (w : Leads start labels kind) :
    (∃ kinds, Walk start labels kinds) ↔ kind.allows .methodEnd = true := by
  induction w with
  | stay kind =>
      constructor
      · rintro ⟨kinds, walk⟩
        cases walk with
        | stop h => exact h
      · exact fun h => ⟨[], .stop h⟩
  | @step after kind last label labels hl h w ih =>
      rw [← ih]
      constructor
      · rintro ⟨kinds, walk⟩
        cases walk with
        | step hl' h' walk =>
            obtain rfl := Option.some.inj ((ofLabel?_label? hl').symm.trans (ofLabel?_label? hl))
            exact ⟨_, walk⟩
      · rintro ⟨kinds, walk⟩
        exact ⟨kind :: kinds, .step hl h walk⟩

/-- The last label is that of the block that is open. -/
theorem getLast?_or (w : Leads start labels kind) :
    labels.getLast?.or start.label? = kind.label? := by
  induction w with
  | stay kind => rfl
  | step hl h w ih =>
      rw [← ih, hl, List.getLast?_cons]
      cases List.getLast? _ <;> rfl

/-- No label leads to the end of a body. -/
theorem ne_methodEnd (w : Leads start labels kind) (h : start ≠ .methodEnd) :
    kind ≠ .methodEnd := by
  induction w with
  | stay kind => exact h
  | step hl h' w ih =>
      apply ih
      rintro rfl
      cases hl

/-- Only a stimulus keeps a body from ending. -/
theorem eq_stimulus (w : Leads .anonymous labels kind) (h : kind.allows .methodEnd = false) :
    kind = .stimulus ∧ labels.getLast? = some "when" := by
  have hkind : kind = .stimulus := by
    have hne : kind ≠ .methodEnd := w.ne_methodEnd nofun
    cases kind with
    | stimulus => rfl
    | methodEnd => exact absurd rfl hne
    | anonymous | setup | outcome | singleOutcome | cleanup | dataTable => cases h
  subst hkind
  have hlast : labels.getLast?.or none = some "when" := w.getLast?_or
  rw [Option.or_none] at hlast
  exact ⟨rfl, hlast⟩

end Leads

/-! ## What is offered -/

/-- What is offered after a block stands in the order of the table. -/
theorem successorLabels_sublist (k : BlockKind) :
    k.successorLabels.Sublist (BlockKind.labels ++ ["end-of-method"]) := by
  cases k <;> decide

/-- Offered are the labels of the kinds that may follow, and the end of the body if that may. -/
theorem mem_successorLabels_iff {k : BlockKind} {t : String} :
    t ∈ k.successorLabels ↔
      (∃ next : BlockKind, next.label? = some t ∧ k.allows next = true) ∨
        t = "end-of-method" ∧ k.allows .methodEnd = true := by
  simp only [successorLabels, List.mem_map, allows, List.contains_iff_mem]
  constructor
  · rintro ⟨next, hnext, rfl⟩
    cases next with
    | anonymous => cases k <;> simp [successors] at hnext
    | methodEnd => exact .inr ⟨rfl, hnext⟩
    | setup | stimulus | outcome | singleOutcome | cleanup | dataTable =>
        exact .inl ⟨_, rfl, hnext⟩
  · rintro (⟨next, hl, hnext⟩ | ⟨rfl, hend⟩)
    · exact ⟨next, hnext, displayName_of_ofLabel? (ofLabel?_label? hl)⟩
    · exact ⟨.methodEnd, hend, rfl⟩

end BlockKind

/-! ## Bodies that cannot be assembled -/

namespace Block

variable {last p : Position} {start kind : BlockKind} {statements before : List Statement}
  {s : Statement} {label : String} {fault : LabelFault}

/-- The ways in which a body fails, with the fault and its place. -/
inductive Fails (last : Position) (start : BlockKind) (statements : List Statement) :
    LabelFault → Position → Prop where
  /-- A label opens no block after the one that the labels before it lead to. -/
  | label (before : List Statement) (s : Statement) (after : List Statement) (label : String)
      (kind : BlockKind) (fault : LabelFault) (hs : statements = before ++ s :: after)
      (hl : s.label = some label) (w : start.Leads (before.filterMap (·.label)) kind)
      (hnext : next kind label = .error fault) : Fails last start statements fault s.position
  /-- The body may not end after the block that its labels lead to. -/
  | ending (kind : BlockKind) (w : start.Leads (statements.filterMap (·.label)) kind)
      (h : kind.allows .methodEnd = false) :
    Fails last start statements (.misplaced .methodEnd kind) last

/-- A statement in front of a body that fails does not mend it, if it has no label. -/
theorem Fails.cons_of_none (h : Fails last start statements fault p) (hs : s.label = none) :
    Fails last start (s :: statements) fault p := by
  cases h with
  | label before s' after label kind fault hbody hl w hnext =>
      refine .label (s :: before) s' after label kind fault (congrArg (s :: ·) hbody) hl ?_ hnext
      rwa [List.filterMap_cons_none hs]
  | ending kind w hend =>
      refine .ending kind ?_ hend
      rwa [List.filterMap_cons_none hs]

/-- Nor does one whose label opens the block after which the body fails. -/
theorem Fails.cons_of_some (h : Fails last kind statements fault p) (hs : s.label = some label)
    (hnext : next start label = .ok kind) : Fails last start (s :: statements) fault p := by
  obtain ⟨hl, ha⟩ := next_eq_ok_iff.mp hnext
  cases h with
  | label before s' after label' kind' fault hbody hl' w hnext' =>
      refine .label (s :: before) s' after label' kind' fault (congrArg (s :: ·) hbody) hl' ?_
        hnext'
      rw [List.filterMap_cons_some hs]
      exact .step hl ha w
  | ending kind' w hend =>
      refine .ending kind' ?_ hend
      rw [List.filterMap_cons_some hs]
      exact .step hl ha w

/-- A body that cannot be assembled fails in one of the ways. -/
theorem fails_of_assembleFrom_eq_error
    (h : assembleFrom last start statements = .error (fault, p)) :
    Fails last start statements fault p := by
  induction statements generalizing start with
  | nil =>
      unfold assembleFrom at h
      split at h
      · cases h
      · rename_i hend
        cases h
        exact .ending start (.stay start) (Bool.eq_false_iff.mpr hend)
  | cons s rest ih =>
      unfold assembleFrom at h
      split at h
      · rename_i hlabel
        exact (ih (map_eq_error_iff.mp h)).cons_of_none hlabel
      · rename_i l hlabel
        split at h
        · rename_i hnext
          cases h
          exact .label [] s rest l start _ rfl hlabel (.stay start) hnext
        · rename_i opened hnext
          exact (ih (map_eq_error_iff.mp h)).cons_of_some hlabel hnext

/-- What cannot be assembled after the block that labels lead to cannot be after their
statements. -/
theorem assembleFrom_append_eq_error {rest : List Statement} {e : LabelFault × Position}
    (w : start.Leads (before.filterMap (·.label)) kind)
    (h : assembleFrom last kind rest = .error e) :
    assembleFrom last start (before ++ rest) = .error e := by
  induction before generalizing start with
  | nil =>
      cases w with
      | stay kind => exact h
  | cons s before ih =>
      rw [List.cons_append]
      cases hlabel : s.label with
      | none =>
          rw [List.filterMap_cons_none hlabel] at w
          simp only [assembleFrom, hlabel, ih w]
          rfl
      | some label =>
          rw [List.filterMap_cons_some hlabel] at w
          cases w with
          | step hl ha w =>
              simp only [assembleFrom, hlabel, next_eq_ok_iff.mpr ⟨hl, ha⟩, ih w]
              rfl

/-- A body fails at a label that opens no block after the one that the labels before it lead to. -/
theorem assembleFrom_eq_error_of_next {after : List Statement}
    (w : start.Leads (before.filterMap (·.label)) kind) (hl : s.label = some label)
    (hnext : next kind label = .error fault) :
    assembleFrom last start (before ++ s :: after) = .error (fault, s.position) :=
  assembleFrom_append_eq_error w (by simp only [assembleFrom, hl, hnext])

end Block

end Scenario
