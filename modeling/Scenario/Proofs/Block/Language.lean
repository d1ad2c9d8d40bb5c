import Scenario.Build
import Scenario.Proofs.Block.Walk
import Mathlib.Computability.RegularExpressions

/-! # The language of method bodies

The label sequences of the bodies that can be assembled form a regular language, written here as
one regular expression over labels: `bodyLabels`. It is said without the table of the grammar.

What may still be read after a block of some kind is regular too (`BlockKind.remaining`). By
Brzozowski derivatives, one label takes the expression of a kind to that of the kind it introduces
(`matches'_deriv_remaining`), and a label of no kind is stuck (`stuck_remaining`). So membership
unfolds label by label, in step with a walk (`mem_remaining_iff_exists_walk`). -/

namespace Scenario

open RegularExpression

/-! ## The expressions -/

/-- A label, or nothing. -/
def optionalLabel (label : String) : RegularExpression String := 1 + char label

/-- A run of outcomes, each of which may answer a stimulus. -/
def outcomeRun : RegularExpression String := star (optionalLabel "when" * char "then")

/-- What may end a body. -/
def bodyEnd : RegularExpression String := optionalLabel "cleanup" * optionalLabel "where"

/-- A single outcome, or stimuli and their outcomes. -/
def scenarioLabels : RegularExpression String := char "expect" + outcomeRun

/-- The labels of a method body: `setup? (expect | (when? then)*) cleanup? where?`. -/
def bodyLabels : RegularExpression String := optionalLabel "setup" * (scenarioLabels * bodyEnd)

/-- Nothing of an expression can be read that begins with a label. -/
def Stuck (label : String) (P : RegularExpression String) : Prop := (P.deriv label).matches' = 0

namespace Stuck

variable {label l : String} {P Q : RegularExpression String}

theorem zero : Stuck label 0 := rfl

theorem one : Stuck label 1 := rfl

theorem char (h : l ≠ label) : Stuck label (char l) := by
  rw [Stuck, RegularExpression.deriv_char_of_ne h, matches'_zero]

theorem add (hP : Stuck label P) (hQ : Stuck label Q) : Stuck label (P + Q) := by
  rw [Stuck, RegularExpression.deriv_add, matches'_add, hP, hQ, add_zero]

theorem mul (hP : Stuck label P) (hQ : Stuck label Q) : Stuck label (P * Q) := by
  have hleft : (P.deriv label * Q).matches' = 0 := by
    rw [matches'_mul, hP, zero_mul]
  change (if P.matchEpsilon then P.deriv label * Q + Q.deriv label
    else P.deriv label * Q).matches' = 0
  split
  · rw [matches'_add, hleft, hQ, add_zero]
  · exact hleft

theorem star (hP : Stuck label P) : Stuck label (star P) := by
  rw [Stuck, RegularExpression.deriv_star, matches'_mul, hP, zero_mul]

end Stuck

namespace BlockKind

/-- The labels that may be read after a block of a kind. -/
def remaining : BlockKind → RegularExpression String
  | .anonymous => bodyLabels
  | .setup => scenarioLabels * bodyEnd
  | .stimulus => char "then" * outcomeRun * bodyEnd
  | .outcome => outcomeRun * bodyEnd
  | .singleOutcome => bodyEnd
  | .cleanup => optionalLabel "where"
  | .dataTable => 1
  | .methodEnd => 0

/-! ## One label at a time -/

/-- A body may end after a block exactly when nothing has to be read any more. -/
theorem nil_mem_remaining_iff (k : BlockKind) :
    [] ∈ k.remaining.matches' ↔ k.allows .methodEnd = true := by
  cases k <;> decide

/-- The label of a kind leads from the expression of `k` to the expression of that kind, if the
kind may follow. -/
theorem matches'_deriv_remaining {k next : BlockKind} {label : String}
    (h : next.label? = some label) :
    (k.remaining.deriv label).matches' = if k.allows next then next.remaining.matches' else 0 := by
  cases next <;> simp only [label?, Option.some.injEq, reduceCtorEq] at h <;> subst h <;>
    cases k <;>
      simp [remaining, bodyLabels, scenarioLabels, outcomeRun, bodyEnd, optionalLabel,
        RegularExpression.deriv, matchEpsilon, allows, successors]

/-- A label that no kind has leads nowhere. -/
theorem stuck_remaining {label : String} (h : ofLabel? label = none) (k : BlockKind) :
    Stuck label k.remaining := by
  have hchar : ∀ (next : BlockKind) (l : String), next.label? = some l → Stuck label (char l) := by
    intro next l hl
    refine Stuck.char ?_
    rintro rfl
    rw [ofLabel?_label? hl] at h
    exact Option.some_ne_none _ h
  have hoptional : ∀ (next : BlockKind) (l : String), next.label? = some l →
      Stuck label (optionalLabel l) := fun next l hl => Stuck.one.add (hchar next l hl)
  have hthen : Stuck label (char "then") := hchar .outcome _ rfl
  have hwhere : Stuck label (optionalLabel "where") := hoptional .dataTable _ rfl
  have hrun : Stuck label outcomeRun := ((hoptional .stimulus _ rfl).mul hthen).star
  have hend : Stuck label bodyEnd := (hoptional .cleanup _ rfl).mul hwhere
  have hscenario : Stuck label scenarioLabels := (hchar .singleOutcome _ rfl).add hrun
  cases k with
  | anonymous => exact (hoptional .setup _ rfl).mul (hscenario.mul hend)
  | setup => exact hscenario.mul hend
  | stimulus => exact (hthen.mul hrun).mul hend
  | outcome => exact hrun.mul hend
  | singleOutcome => exact hend
  | cleanup => exact hwhere
  | dataTable => exact Stuck.one
  | methodEnd => exact Stuck.zero

/-- A label can be read when it introduces a kind that may follow, and the others can be read
after that kind. -/
theorem cons_mem_remaining_iff {k : BlockKind} {label : String} {labels : List String} :
    label :: labels ∈ k.remaining.matches' ↔
      ∃ next : BlockKind, next.label? = some label ∧ k.allows next = true ∧
        labels ∈ next.remaining.matches' := by
  rw [← rmatch_iff_matches', rmatch, rmatch_iff_matches']
  cases hl : ofLabel? label with
  | none =>
      rw [k.stuck_remaining hl]
      refine iff_of_false (Language.notMem_zero _) ?_
      rintro ⟨next, hnext, -⟩
      rw [ofLabel?_label? hnext] at hl
      exact Option.some_ne_none _ hl
  | some next =>
      have hnext : next.label? = some label := label?_of_ofLabel? hl
      rw [matches'_deriv_remaining hnext]
      constructor
      · intro hmem
        split at hmem
        · rename_i ha
          exact ⟨next, hnext, ha, hmem⟩
        · exact absurd hmem (Language.notMem_zero _)
      · rintro ⟨next', hnext', ha, hmem⟩
        have heq : next = next' := Option.some.inj (hl.symm.trans (ofLabel?_label? hnext'))
        subst heq
        rwa [if_pos ha]

/-- What can be read after a block is what walks from it read. -/
theorem mem_remaining_iff_exists_walk {k : BlockKind} {labels : List String} :
    labels ∈ k.remaining.matches' ↔ ∃ kinds, k.Walk labels kinds := by
  -- The kind of the open block changes with every label, so it is general in the induction.
  induction labels generalizing k with
  | nil =>
      rw [nil_mem_remaining_iff]
      constructor
      · exact fun h => ⟨[], .stop h⟩
      · rintro ⟨kinds, w⟩
        cases w with
        | stop h => exact h
  | cons label labels ih =>
      rw [cons_mem_remaining_iff]
      constructor
      · rintro ⟨next, hl, ha, hmem⟩
        obtain ⟨kinds, w⟩ := ih.mp hmem
        exact ⟨next :: kinds, .step hl ha w⟩
      · rintro ⟨kinds, w⟩
        cases w with
        | step hl ha w => exact ⟨_, hl, ha, ih.mpr ⟨_, w⟩⟩

end BlockKind

/-! ## Methods -/

/-- A method has blocks exactly when its labels are a word of the language. -/
theorem MethodDecl.exists_assemble_eq_ok_iff_labels_mem {m : MethodDecl} :
    (∃ blocks, m.assemble = .ok blocks) ↔ m.labels ∈ bodyLabels.matches' :=
  exists_assemble_eq_ok_iff.trans BlockKind.mem_remaining_iff_exists_walk.symm

example : ["setup", "when", "then", "then", "where"] ∈ bodyLabels.matches' := by decide

example : ["expect", "then"] ∉ bodyLabels.matches' := by decide

namespace ClassDecl

end ClassDecl

end Scenario
