import Scenario.Build
import Scenario.Proofs.Block.Walk
import Mathlib.Algebra.GroupWithZero.Nat
import Mathlib.Data.List.Forall2

/-! # What the blocks of a body hold

A body is cut before every statement with a label (`Statement.cut`), and there is one way to do this
(`Statement.isCut_iff`). Each block of the body holds one segment of the cut: the bare literals of
the segment are its descriptions, and all its other statements stand in it (`Block.Holds`,
`MethodDecl.forall₂_holds_segments`).

The segments put together are the body (`MethodDecl.flatten_segments`), so that nothing is lost or
told twice: `MethodDecl.flatMap_descriptions` and `MethodDecl.sum_sizes`. Every statement has its
place in one block, the one that the labels up to it count (`MethodDecl.standsIn_iff`).
`ClassDecl.blocks_hold_segments` puts this together. -/

namespace Scenario

/-- The statements before the first label, and the segments that labels begin. -/
def Statement.cut : List Statement → List Statement × List (List Statement)
  | [] => ([], [])
  | s :: rest =>
    let (first, later) := cut rest
    match s.label with
    | none => (s :: first, later)
    | some _ => ([], (s :: first) :: later)

namespace Statement

variable {s : Statement} {first rest ss : List Statement} {later : List (List Statement)}

theorem cut_cons_of_none (h : s.label = none) :
    cut (s :: rest) = (s :: (cut rest).1, (cut rest).2) := by
  simp [cut, h]

theorem cut_cons_of_some {label : String} (h : s.label = some label) :
    cut (s :: rest) = ([], (s :: (cut rest).1) :: (cut rest).2) := by
  simp [cut, h]

/-- The segments put together are what has been cut. -/
theorem append_flatten_cut (ss : List Statement) : (cut ss).1 ++ (cut ss).2.flatten = ss := by
  induction ss with
  | nil => rfl
  | cons s rest ih =>
      cases h : s.label with
      | none => rw [cut_cons_of_none h, List.cons_append, ih]
      | some label =>
          rw [cut_cons_of_some h, List.nil_append, List.flatten_cons, List.cons_append, ih]

/-! ## The one way to cut -/

/-- Statements are a segment that a label begins: the first of them has a label, and no other. -/
def BeginsWithLabel (part : List Statement) : Prop :=
  ∃ s rest, part = s :: rest ∧ s.label.isSome = true ∧ ∀ t ∈ rest, t.label = none

/-- Statements are cut before every one with a label: the parts put together are the statements,
there is no label in the first part, and each of the others begins with the one label in it. -/
structure IsCut (ss first : List Statement) (later : List (List Statement)) : Prop where
  together : first ++ later.flatten = ss
  first : ∀ s ∈ first, s.label = none
  later : ∀ part ∈ later, BeginsWithLabel part

theorem isCut_cut (ss : List Statement) : IsCut ss (cut ss).1 (cut ss).2 := by
  induction ss with
  | nil => exact ⟨rfl, nofun, nofun⟩
  | cons s rest ih =>
      obtain ⟨-, hfirst, hlater⟩ := ih
      have htogether := append_flatten_cut (s :: rest)
      cases h : s.label with
      | none =>
          rw [cut_cons_of_none h] at htogether ⊢
          exact ⟨htogether, List.forall_mem_cons.mpr ⟨h, hfirst⟩, hlater⟩
      | some label =>
          rw [cut_cons_of_some h] at htogether ⊢
          have hpart : BeginsWithLabel (s :: (cut rest).1) :=
            ⟨s, _, rfl, Option.isSome_of_eq_some h, hfirst⟩
          exact ⟨htogether, nofun, List.forall_mem_cons.mpr ⟨hpart, hlater⟩⟩

/-- Statements without labels belong to the first part. -/
theorem cut_append_of_unlabelled (h : ∀ s ∈ first, s.label = none) (rest : List Statement) :
    cut (first ++ rest) = (first ++ (cut rest).1, (cut rest).2) := by
  induction first with
  | nil => rfl
  | cons s first ih =>
      obtain ⟨hs, hfirst⟩ := List.forall_mem_cons.mp h
      rw [List.cons_append, cut_cons_of_none hs, ih hfirst, List.cons_append]

/-- Segments that labels begin are found again. -/
theorem cut_flatten (h : ∀ part ∈ later, BeginsWithLabel part) :
    cut later.flatten = ([], later) := by
  induction later with
  | nil => rfl
  | cons part later ih =>
      obtain ⟨⟨s, rest, rfl, hs, hrest⟩, hlater⟩ := List.forall_mem_cons.mp h
      obtain ⟨label, hlabel⟩ := Option.isSome_iff_exists.mp hs
      rw [List.flatten_cons, List.cons_append, cut_cons_of_some hlabel,
        cut_append_of_unlabelled hrest, ih hlater, List.append_nil]

/-- There is one way to cut. -/
theorem isCut_iff : IsCut ss first later ↔ cut ss = (first, later) := by
  constructor
  · rintro ⟨rfl, hfirst, hlater⟩
    rw [cut_append_of_unlabelled hfirst, cut_flatten hlater, List.append_nil]
  · intro h
    have hcut := isCut_cut ss
    rwa [h] at hcut

/-! ## Labels in segments -/

/-- The number of labels among statements. -/
def countLabels (ss : List Statement) : Nat := (ss.filterMap (·.label)).length

theorem countLabels_append (ss ts : List Statement) :
    countLabels (ss ++ ts) = countLabels ss + countLabels ts := by
  rw [countLabels, List.filterMap_append, List.length_append]
  rfl

theorem countLabels_of_unlabelled (h : ∀ s ∈ ss, s.label = none) : countLabels ss = 0 := by
  rw [countLabels, List.filterMap_eq_nil_iff.mpr h, List.length_nil]

theorem BeginsWithLabel.ne_nil {part : List Statement} (h : BeginsWithLabel part) : part ≠ [] := by
  obtain ⟨s, rest, rfl, -⟩ := h
  exact List.cons_ne_nil s rest

/-- Up to any of its statements there is one label in a segment that a label begins. -/
theorem BeginsWithLabel.countLabels_of_prefix {part front : List Statement}
    (h : BeginsWithLabel part) (hfront : front <+: part) (hne : front ≠ []) :
    countLabels front = 1 := by
  obtain ⟨s, rest, rfl, hs, hrest⟩ := h
  rcases List.prefix_cons_iff.mp hfront with rfl | ⟨front, rfl, hrun⟩
  · exact absurd rfl hne
  · have hzero : countLabels front = 0 :=
      countLabels_of_unlabelled fun t ht => hrest t (hrun.subset ht)
    obtain ⟨label, hlabel⟩ := Option.isSome_iff_exists.mp hs
    rw [countLabels, List.filterMap_cons_some hlabel, List.length_cons]
    exact congrArg (· + 1) hzero

theorem countLabels_flatten (h : ∀ part ∈ later, BeginsWithLabel part) :
    countLabels later.flatten = later.length := by
  induction later with
  | nil => rfl
  | cons part later ih =>
      obtain ⟨hpart, hlater⟩ := List.forall_mem_cons.mp h
      rw [List.flatten_cons, countLabels_append, ih hlater,
        hpart.countLabels_of_prefix (List.prefix_refl part) hpart.ne_nil, List.length_cons,
        Nat.add_comm]

/-- A cut has a segment for every label. -/
theorem IsCut.length_later (h : IsCut ss first later) : later.length = countLabels ss := by
  rw [← h.together, countLabels_append, countLabels_of_unlabelled h.first,
    countLabels_flatten h.later, Nat.zero_add]

/-- In a cut, a statement stands in the segment that the labels up to it count. -/
theorem IsCut.countLabels_eq {earlier more : List (List Statement)} {front back : List Statement}
    {s : Statement} (h : IsCut ss first later)
    (hparts : first :: later = earlier ++ (front ++ s :: back) :: more) :
    countLabels (earlier.flatten ++ front ++ [s]) = earlier.length := by
  have hrun : front ++ [s] <+: front ++ s :: back := ⟨back, by simp⟩
  rw [List.append_assoc, countLabels_append]
  cases earlier with
  | nil =>
      obtain ⟨rfl, -⟩ := List.cons_eq_cons.mp hparts
      exact (Nat.zero_add _).trans
        (countLabels_of_unlabelled fun t ht => h.first t (hrun.subset ht))
  | cons part earlier =>
      obtain ⟨rfl, rfl⟩ := List.cons_eq_cons.mp hparts
      obtain ⟨hearlier, hmore⟩ := List.forall_mem_append.mp h.later
      have hpart := (List.forall_mem_cons.mp hmore).1
      rw [List.flatten_cons, countLabels_append, countLabels_of_unlabelled h.first,
        countLabels_flatten hearlier, hpart.countLabels_of_prefix hrun (by simp), Nat.zero_add,
        List.length_cons]

end Statement

/-- Every element of lists put together stands in one of the lists. -/
theorem exists_part_of_flatten_eq {α : Type} {parts : List (List α)} {before after : List α}
    {a : α} (h : parts.flatten = before ++ a :: after) :
    ∃ earlier front back more, parts = earlier ++ (front ++ a :: back) :: more ∧
      before = earlier.flatten ++ front := by
  rcases List.flatten_eq_append_iff.mp h with
    ⟨as, bs, rfl, rfl, hbs⟩ | ⟨as, bs, c, cs, ds, rfl, rfl, hc⟩
  · -- What precedes the element ends where a list ends; empty lists may follow that one.
    obtain ⟨es, back, more, rfl, hes, -⟩ := List.flatten_eq_cons_iff.mp hbs.symm
    refine ⟨as ++ es, [], back, more, by simp, ?_⟩
    rw [List.flatten_append, List.flatten_eq_nil_iff.mpr hes, List.append_nil, List.append_nil]
  · obtain ⟨rfl, -⟩ := List.cons_eq_cons.mp hc
    exact ⟨as, bs, cs, ds, rfl, rfl⟩

namespace Block

variable {b : Block} {bs : List Block} {ss : List Statement} {sss : List (List Statement)}

/-- A block holds statements: those that are bare literals describe it, and the others are its own,
both in their order. -/
structure Holds (b : Block) (ss : List Statement) : Prop where
  descriptions : b.descriptions = ss.filterMap (·.literal)
  statements : b.statements = ss.filter (·.literal.isNone)

namespace Holds

theorem empty (kind : BlockKind) : Holds { kind } [] := ⟨rfl, rfl⟩

theorem cons (h : b.Holds ss) (s : Statement) : (b.cons s).Holds (s :: ss) := by
  constructor
  · rw [descriptions_cons, h.descriptions]
    cases hs : s.literal <;> simp [hs]
  · rw [statements_cons, h.statements]
    cases hs : s.literal <;> simp [hs]

/-- Every statement is a description or stands in the block. -/
theorem length_eq (h : b.Holds ss) : b.statements.length + b.descriptions.length = ss.length := by
  have hsplit (ss : List Statement) :
      (ss.filter (·.literal.isNone)).length + (ss.filterMap (·.literal)).length = ss.length := by
    induction ss with
    | nil => rfl
    | cons s rest ih =>
        cases hs : s.literal with
        | none => simp [hs, ← ih]; omega
        | some d => simp [hs, ← ih]; omega
  rw [h.descriptions, h.statements, hsplit]

/-- A block that holds something is not empty. -/
theorem isEmpty_eq_false (h : b.Holds ss) (hne : ss ≠ []) : b.isEmpty = false := by
  have hpos : 0 < b.statements.length + b.descriptions.length := by
    rw [h.length_eq]
    exact List.length_pos_iff.mpr hne
  rw [isEmpty, Bool.and_eq_false_iff, List.isEmpty_eq_false_iff, List.isEmpty_eq_false_iff,
    ← List.length_pos_iff, ← List.length_pos_iff]
  omega

end Holds

/-- The blocks of a body hold its segments, one each. -/
theorem holds_cut_of_assembleFrom {last : Position} {kind : BlockKind}
    (h : assembleFrom last kind ss = .ok (b, bs)) :
    b.Holds (Statement.cut ss).1 ∧ List.Forall₂ Holds bs (Statement.cut ss).2 := by
  induction ss generalizing kind b bs with
  | nil =>
      unfold assembleFrom at h
      split at h
      · cases h
        exact ⟨.empty kind, .nil⟩
      · cases h
  | cons s rest ih =>
      cases assembledCons h with
      | inside b bs hlabel hrest =>
          obtain ⟨hb, hbs⟩ := ih hrest
          rw [Statement.cut_cons_of_none hlabel]
          exact ⟨hb.cons s, hbs⟩
      | opening l opened b bs hlabel hnext hrest =>
          obtain ⟨hb, hbs⟩ := ih hrest
          rw [Statement.cut_cons_of_some hlabel]
          exact ⟨.empty kind, .cons (hb.cons s) hbs⟩

/-! ## Blocks together -/

/-- Blocks are described by the literals of all that they hold. -/
theorem flatMap_descriptions_of_holds (h : List.Forall₂ Holds bs sss) :
    bs.flatMap (·.descriptions) = sss.flatten.filterMap (·.literal) := by
  induction h with
  | nil => rfl
  | cons hb _ ih =>
      rw [List.flatMap_cons, List.flatten_cons, List.filterMap_append, ih, hb.descriptions]

/-- Blocks are as large, together, as all that they hold. -/
theorem sum_sizes_of_holds (h : List.Forall₂ Holds bs sss) :
    (bs.map fun b => b.statements.length + b.descriptions.length).sum = sss.flatten.length := by
  induction h with
  | nil => rfl
  | cons hb _ ih =>
      rw [List.map_cons, List.sum_cons, List.flatten_cons, List.length_append, ih, hb.length_eq]

/-- Blocks that hold segments that labels begin are not empty. -/
theorem forall_isEmpty_eq_false (h : List.Forall₂ Holds bs sss)
    (hlabels : ∀ part ∈ sss, Statement.BeginsWithLabel part) :
    ∀ b ∈ bs, b.isEmpty = false := by
  induction h with
  | nil => exact nofun
  | cons hb _ ih =>
      obtain ⟨hpart, hlabels⟩ := List.forall_mem_cons.mp hlabels
      exact List.forall_mem_cons.mpr ⟨hb.isEmpty_eq_false hpart.ne_nil, ih hlabels⟩

end Block

namespace MethodDecl

variable {m : MethodDecl} {blocks : List Block} {before after : List Statement} {s : Statement}
  {k : Nat}

/-- The segments of a body: the one before the first label, and one for each label. -/
def segments (m : MethodDecl) : List (List Statement) :=
  (Statement.cut m.statements).1 :: (Statement.cut m.statements).2

/-- The texts of the bare literals of a body, in order. -/
def literals (m : MethodDecl) : List String := m.statements.filterMap (·.literal)

theorem flatten_segments (m : MethodDecl) : m.segments.flatten = m.statements :=
  Statement.append_flatten_cut m.statements

/-- The blocks of a method hold the segments of its body, one each. -/
theorem forall₂_holds_segments (h : m.assemble = .ok blocks) :
    List.Forall₂ Block.Holds blocks m.segments := by
  obtain ⟨b, bs, hfrom, rfl⟩ := assemble_eq_ok_iff.mp h
  obtain ⟨hb, hbs⟩ := Block.holds_cut_of_assembleFrom hfrom
  exact .cons hb hbs

/-- The descriptions of the blocks are the literals of the body. -/
theorem flatMap_descriptions (h : m.assemble = .ok blocks) :
    blocks.flatMap (·.descriptions) = m.literals := by
  rw [Block.flatMap_descriptions_of_holds (forall₂_holds_segments h), flatten_segments]
  rfl

/-- Every statement of the body is counted once in the blocks. -/
theorem sum_sizes (h : m.assemble = .ok blocks) :
    (blocks.map fun b => b.statements.length + b.descriptions.length).sum =
      m.statements.length := by
  rw [Block.sum_sizes_of_holds (forall₂_holds_segments h), flatten_segments]

/-! ## The place of a statement -/

theorem isCut_iff_segments_eq {first : List Statement} {later : List (List Statement)} :
    Statement.IsCut m.statements first later ↔ m.segments = first :: later := by
  rw [Statement.isCut_iff, segments, List.cons_eq_cons, Prod.ext_iff]

/-- The statement `s`, which follows `before` in the body, stands in the block at `k`: the block
holds a segment with the statement in it, and the segments before that one and the statements before
it in its own are all that precedes it. -/
def StandsIn (m : MethodDecl) (blocks : List Block) (before : List Statement) (s : Statement)
    (k : Nat) : Prop :=
  ∃ earlier front back more b, m.segments = earlier ++ (front ++ s :: back) :: more ∧
    before = earlier.flatten ++ front ∧ earlier.length = k ∧
    blocks[k]? = some b ∧ b.Holds (front ++ s :: back)

/-- A statement stands in the block that the labels up to it count, and in no other one. -/
theorem standsIn_iff (hholds : List.Forall₂ Block.Holds blocks m.segments)
    (h : m.statements = before ++ s :: after) :
    m.StandsIn blocks before s k ↔ k = Statement.countLabels (before ++ [s]) := by
  have hcut : ∀ {earlier front back more},
      m.segments = earlier ++ (front ++ s :: back) :: more →
      Statement.countLabels (earlier.flatten ++ front ++ [s]) = earlier.length := fun hparts =>
    (Statement.isCut_cut m.statements).countLabels_eq hparts
  constructor
  · rintro ⟨earlier, front, back, more, b, hparts, rfl, rfl, -⟩
    exact (hcut hparts).symm
  · rintro rfl
    obtain ⟨earlier, front, back, more, hparts, rfl⟩ :=
      exists_part_of_flatten_eq (m.flatten_segments.trans h)
    rw [hparts] at hholds
    obtain ⟨hlength, hget⟩ := List.forall₂_iff_get.mp hholds
    have hk : earlier.length < blocks.length := by
      rw [hlength, List.length_append, List.length_cons]
      omega
    have hb : blocks[earlier.length].Holds (front ++ s :: back) := by
      simpa using hget earlier.length hk (by simp)
    refine ⟨earlier, front, back, more, _, hparts, rfl, (hcut hparts).symm, ?_, hb⟩
    rw [hcut hparts, List.getElem?_eq_getElem hk]

end MethodDecl

namespace ClassDecl

variable {owner : ClassDecl} {m : MethodDecl} {blocks : List Block}

/-- The blocks of a method hold the segments of its body, one each: there is one way to cut the body
before every label, and what it cuts off is told by the blocks. So every statement stands in exactly
one block, the one that the labels up to it count, and a block that a label opens is not empty. -/
theorem blocks_hold_segments (h : owner.assemble m = .ok blocks) :
    (∀ first later, Statement.IsCut m.statements first later ↔ m.segments = first :: later) ∧
      blocks.length = m.labels.length + 1 ∧
      List.Forall₂ Block.Holds blocks m.segments ∧
      (∀ before s after, m.statements = before ++ s :: after →
        ∀ k, m.StandsIn blocks before s k ↔ k = Statement.countLabels (before ++ [s])) ∧
      ∃ b bs, blocks = b :: bs ∧ b.kind = .anonymous ∧ ∀ b' ∈ bs, b'.isEmpty = false := by
  have hm : m.assemble = .ok blocks := assemble_eq_ok_iff.mp h
  have hholds := MethodDecl.forall₂_holds_segments hm
  refine ⟨fun first later => MethodDecl.isCut_iff_segments_eq, ?_, hholds,
    fun before s after hbody k => MethodDecl.standsIn_iff hholds hbody, ?_⟩
  · have hcut := Statement.isCut_cut m.statements
    rw [hholds.length_eq, MethodDecl.segments, List.length_cons, hcut.length_later]
    rfl
  · obtain ⟨kinds, hkinds, -⟩ := MethodDecl.exists_walk_of_assemble hm
    cases hholds with
    | @cons b _ bs _ hb hbs =>
        have hlater := (Statement.isCut_cut m.statements).later
        exact ⟨b, bs, rfl, (List.cons_eq_cons.mp hkinds).1,
          Block.forall_isEmpty_eq_false hbs hlater⟩

/-- A body with statements before its first label, with literals that are empty, that are labelled
and that follow one another, and with a label after which nothing else comes. -/
def dividedMethod : MethodDecl where
  name := "pushing"
  statements :=
    [{ literal := "" }, { expression := .text "def stack" }, { label := "setup", literal := "" },
      { literal := "with one element" }, { expression := .text "stack.push(1)" },
      { label := "when", expression := .text "stack.pop()" },
      { label := "then", literal := "it is empty again" }]

/-- The method has blocks, and every statement of its body has its place in one of them. -/
theorem blocks_hold_segments_dividedMethod :
    ∃ blocks, ClassDecl.assemble { name := "StackSpec" } dividedMethod = .ok blocks ∧
      List.Forall₂ Block.Holds blocks dividedMethod.segments ∧
      blocks.map (fun b => (b.kind, b.descriptions, b.statements.length)) =
        [(.anonymous, [""], 1), (.setup, ["", "with one element"], 1), (.stimulus, [], 1),
          (.outcome, ["it is empty again"], 0)] ∧
      ∀ k, dividedMethod.StandsIn blocks (dividedMethod.statements.take 3)
        { literal := "with one element" } k ↔ k = 1 := by
  obtain ⟨blocks, h, hblocks⟩ :
      ∃ blocks, ClassDecl.assemble { name := "StackSpec" } dividedMethod = .ok blocks ∧
        blocks.map (fun b => (b.kind, b.descriptions, b.statements.length)) =
          [(.anonymous, [""], 1), (.setup, ["", "with one element"], 1), (.stimulus, [], 1),
            (.outcome, ["it is empty again"], 0)] := ⟨_, rfl, rfl⟩
  obtain ⟨-, -, hholds, hstands, -⟩ := blocks_hold_segments h
  exact ⟨blocks, h, hholds, hblocks, hstands _ _ _ rfl⟩

end ClassDecl

end Scenario
