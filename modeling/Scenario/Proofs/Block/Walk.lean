import Scenario.Block.Assembly
import Mathlib.Data.List.Chain

/-! # Walks through the grammar of blocks

A body is assembled in one pass, in which the kind of the open block decides which labels may come.
`BlockKind.Walk` says the same without the pass: the labels of a body open blocks of certain kinds,
each kind may follow the one before it, and the body may end after the last.

* `Block.walk_of_assembleFrom`, `Block.exists_assembleFrom_of_walk`: a body has blocks exactly when
  its labels are a walk, and the kinds of the walk are those of the blocks.
* `MethodDecl.exists_assemble_eq_ok_iff`, `MethodDecl.exists_walk_of_assemble`: the same for a
  whole method. -/

namespace Scenario

section Except

variable {ε α β : Type} {f : α → β} {x : Except ε α}

theorem map_eq_ok_iff {b : β} : f <$> x = .ok b ↔ ∃ a, x = .ok a ∧ f a = b := by
  cases x <;> simp

theorem map_eq_error_iff {e : ε} : f <$> x = .error e ↔ x = .error e := by
  cases x <;> simp

end Except

namespace BlockKind

/-- A known label is what is shown of the kind that it introduces. -/
theorem displayName_of_ofLabel? {label : String} {kind : BlockKind}
    (h : ofLabel? label = some kind) : kind.displayName = label := by
  have hl := label?_of_ofLabel? h
  cases kind <;> simp_all [label?, displayName]

/-- Read after a block of the kind `after`, the labels open blocks of the given kinds, and the body
may end there. -/
inductive Walk : BlockKind → List String → List BlockKind → Prop where
  /-- The body ends. -/
  | stop {after : BlockKind} (h : after.allows .methodEnd = true) : Walk after [] []
  /-- A label opens a block. -/
  | step {after kind : BlockKind} {label : String} {labels : List String}
      {kinds : List BlockKind} (hl : kind.label? = some label) (h : after.allows kind = true)
      (w : Walk kind labels kinds) : Walk after (label :: labels) (kind :: kinds)

namespace Walk

variable {after : BlockKind} {labels : List String} {kinds : List BlockKind}

/-- The kinds of a walk are those that its labels introduce. -/
theorem map_ofLabel? (w : Walk after labels kinds) : labels.map ofLabel? = kinds.map some := by
  induction w with
  | stop h => rfl
  | step hl h w ih => rw [List.map_cons, List.map_cons, ih, ofLabel?_label? hl]

/-- Every kind of a walk may follow the one before it, and the end of the body the last. -/
theorem isChain (w : Walk after labels kinds) :
    List.IsChain (fun k next => allows k next = true) (after :: kinds ++ [.methodEnd]) := by
  induction w with
  | stop h => exact List.isChain_pair.mpr h
  | step hl h w ih => exact List.isChain_cons_cons.mpr ⟨h, ih⟩

/-- A walk over no labels opens no block. -/
theorem kinds_eq_nil_iff (w : Walk after labels kinds) : kinds = [] ↔ labels = [] := by
  cases w with
  | stop h => exact iff_of_true rfl rfl
  | step hl h w => exact iff_of_false (List.cons_ne_nil _ _) (List.cons_ne_nil _ _)

end Walk

end BlockKind

namespace Block

variable {last : Position} {after kind : BlockKind} {label : String}

/-- A label opens a block of its kind, where that kind is allowed. -/
theorem next_eq_ok_iff :
    next after label = .ok kind ↔ kind.label? = some label ∧ after.allows kind = true := by
  unfold next
  cases hl : BlockKind.ofLabel? label with
  | none =>
      have hne : kind.label? ≠ some label := fun h => by
        rw [BlockKind.ofLabel?_label? h] at hl
        exact Option.some_ne_none _ hl
      simp [hne]
  | some found =>
      rw [← BlockKind.ofLabel?_eq_some_iff, hl]
      by_cases ha : after.allows found = true
      · simp only [ha, if_true, Except.ok.injEq, Option.some.injEq]
        exact ⟨fun h => ⟨h, h ▸ ha⟩, And.left⟩
      · simp only [ha, Bool.false_eq_true, if_false, reduceCtorEq, Option.some.injEq, false_iff,
          not_and]
        exact fun h => h ▸ ha

/-- The ways in which a statement stands in front of the blocks of the statements after it. -/
inductive AssembledCons (last : Position) (kind : BlockKind) (s : Statement)
    (rest : List Statement) : Block → List Block → Prop where
  /-- Without a label it belongs to the block that is open. -/
  | inside (b : Block) (bs : List Block) (hl : s.label = none)
      (h : assembleFrom last kind rest = .ok (b, bs)) :
    AssembledCons last kind s rest (b.cons s) bs
  /-- A label ends the open block and begins the next. -/
  | opening (label : String) (opened : BlockKind) (b : Block) (bs : List Block)
      (hl : s.label = some label) (hnext : next kind label = .ok opened)
      (h : assembleFrom last opened rest = .ok (b, bs)) :
    AssembledCons last kind s rest { kind } (b.cons s :: bs)

/-- The blocks of a body that begins with a statement come about in one of the ways. -/
theorem assembledCons {s : Statement} {rest : List Statement} {b : Block} {bs : List Block}
    (h : assembleFrom last kind (s :: rest) = .ok (b, bs)) :
    AssembledCons last kind s rest b bs := by
  unfold assembleFrom at h
  split at h
  · rename_i hlabel
    obtain ⟨⟨b', bs'⟩, hrest, hcons⟩ := map_eq_ok_iff.mp h
    cases hcons
    exact .inside _ _ hlabel hrest
  · rename_i l hlabel
    split at h
    · cases h
    · rename_i opened hnext
      obtain ⟨⟨b', bs'⟩, hrest, hcons⟩ := map_eq_ok_iff.mp h
      cases hcons
      exact .opening l opened _ _ hlabel hnext hrest

/-- The blocks of a body are opened by a walk over its labels. -/
theorem walk_of_assembleFrom {statements : List Statement} {b : Block} {bs : List Block}
    (h : assembleFrom last kind statements = .ok (b, bs)) :
    b.kind = kind ∧ kind.Walk (statements.filterMap (·.label)) (bs.map (·.kind)) := by
  -- A statement without a label stays in the open block and adds no step to the walk.
  induction statements generalizing kind b bs with
  | nil =>
      unfold assembleFrom at h
      split at h
      · rename_i hend
        cases h
        exact ⟨rfl, .stop hend⟩
      · cases h
  | cons s rest ih =>
      cases assembledCons h with
      | inside b bs hlabel hrest =>
          obtain ⟨hkind, w⟩ := ih hrest
          refine ⟨(kind_cons s b).trans hkind, ?_⟩
          rwa [List.filterMap_cons_none hlabel]
      | opening l opened b bs hlabel hnext hrest =>
          obtain ⟨hkind, w⟩ := ih hrest
          obtain ⟨hl, ha⟩ := next_eq_ok_iff.mp hnext
          refine ⟨rfl, ?_⟩
          rw [List.filterMap_cons_some hlabel, List.map_cons, kind_cons, hkind]
          exact .step hl ha w

/-- A body whose labels are a walk has blocks. -/
theorem exists_assembleFrom_of_walk {statements : List Statement} {kinds : List BlockKind}
    (w : kind.Walk (statements.filterMap (·.label)) kinds) :
    ∃ b bs, assembleFrom last kind statements = .ok (b, bs) := by
  induction statements generalizing kind kinds with
  | nil =>
      cases w with
      | stop h => exact ⟨{ kind }, [], by rw [assembleFrom, if_pos h]⟩
  | cons s rest ih =>
      cases hlabel : s.label with
      | none =>
          rw [List.filterMap_cons_none hlabel] at w
          obtain ⟨b, bs, hrest⟩ := ih w
          exact ⟨b.cons s, bs, by simp only [assembleFrom, hlabel, hrest]; rfl⟩
      | some l =>
          rw [List.filterMap_cons_some hlabel] at w
          cases w with
          | step hl ha w =>
              obtain ⟨b, bs, hrest⟩ := ih w
              have hnext := next_eq_ok_iff.mpr ⟨hl, ha⟩
              exact ⟨{ kind }, b.cons s :: bs, by
                simp only [assembleFrom, hlabel, hnext, hrest]; rfl⟩

end Block

namespace MethodDecl

variable {m : MethodDecl} {blocks : List Block}

/-- The blocks of a method are those of its body, read after an anonymous one. -/
theorem assemble_eq_ok_iff : m.assemble = .ok blocks ↔
    ∃ b bs, Block.assembleFrom m.lastPosition .anonymous m.statements = .ok (b, bs) ∧
      b :: bs = blocks :=
  map_eq_ok_iff.trans Prod.exists

/-- The first block of a method stands before its labels, and the others are opened by them. -/
theorem exists_walk_of_assemble (h : m.assemble = .ok blocks) :
    ∃ kinds, blocks.map (·.kind) = .anonymous :: kinds ∧
      BlockKind.Walk .anonymous m.labels kinds := by
  obtain ⟨b, bs, hfrom, rfl⟩ := assemble_eq_ok_iff.mp h
  obtain ⟨hkind, w⟩ := Block.walk_of_assembleFrom hfrom
  refine ⟨_, ?_, w⟩
  rw [List.map_cons, hkind]

/-- A method has blocks exactly when its labels are a walk from its start. -/
theorem exists_assemble_eq_ok_iff :
    (∃ blocks, m.assemble = .ok blocks) ↔ ∃ kinds, BlockKind.Walk .anonymous m.labels kinds := by
  constructor
  · rintro ⟨blocks, h⟩
    obtain ⟨kinds, -, w⟩ := exists_walk_of_assemble h
    exact ⟨kinds, w⟩
  · rintro ⟨kinds, w⟩
    have hfrom : ∃ b bs, Block.assembleFrom m.lastPosition .anonymous m.statements = .ok (b, bs) :=
      Block.exists_assembleFrom_of_walk w
    obtain ⟨b, bs, h⟩ := hfrom
    exact ⟨b :: bs, assemble_eq_ok_iff.mpr ⟨b, bs, h, rfl⟩⟩

end MethodDecl

end Scenario
