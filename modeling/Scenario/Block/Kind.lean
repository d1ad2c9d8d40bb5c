/-! # Kinds of blocks

The body of a feature method is a row of blocks. Every kind but the one before the first label is
introduced by a label, and may be followed by certain kinds only. -/

namespace Scenario

/-- What a block of a method body is for. -/
inductive BlockKind where
  /-- The statements before the first label. -/
  | anonymous
  | setup
  | stimulus
  | outcome
  | singleOutcome
  | cleanup
  | dataTable
  /-- Stands for the end of the body; no block has this kind. -/
  | methodEnd
deriving DecidableEq, Repr

namespace BlockKind

/-- All kinds, in the order of the table of the grammar. -/
def all : List BlockKind :=
  [.anonymous, .setup, .stimulus, .outcome, .singleOutcome, .cleanup, .dataTable, .methodEnd]

/-- The name of a kind. -/
def name : BlockKind → String
  | .anonymous => "anonymous"
  | .setup => "setup"
  | .stimulus => "stimulus"
  | .outcome => "outcome"
  | .singleOutcome => "single_outcome"
  | .cleanup => "cleanup"
  | .dataTable => "data_table"
  | .methodEnd => "method_end"

/-- The kind with a given name. -/
def ofName? (s : String) : Option BlockKind := all.find? (·.name == s)

/-- The label that introduces a block of a kind. -/
def label? : BlockKind → Option String
  | .anonymous => none
  | .setup => some "setup"
  | .stimulus => some "when"
  | .outcome => some "then"
  | .singleOutcome => some "expect"
  | .cleanup => some "cleanup"
  | .dataTable => some "where"
  | .methodEnd => none

/-- The kind that a label introduces. Labels are compared exactly. -/
def ofLabel? : String → Option BlockKind
  | "setup" => some .setup
  | "when" => some .stimulus
  | "then" => some .outcome
  | "expect" => some .singleOutcome
  | "cleanup" => some .cleanup
  | "where" => some .dataTable
  | _ => none

/-- All labels, in the order of the table. -/
def labels : List String := all.filterMap label?

/-- The kinds that may follow a kind, in the order in which they are offered. A stimulus has to
be answered by an outcome. -/
def successors : BlockKind → List BlockKind
  | .anonymous =>
    [.setup, .stimulus, .outcome, .singleOutcome, .cleanup, .dataTable, .methodEnd]
  | .setup => [.stimulus, .outcome, .singleOutcome, .cleanup, .dataTable, .methodEnd]
  | .stimulus => [.outcome]
  | .outcome => [.stimulus, .outcome, .cleanup, .dataTable, .methodEnd]
  | .singleOutcome => [.cleanup, .dataTable, .methodEnd]
  | .cleanup => [.dataTable, .methodEnd]
  | .dataTable => [.methodEnd]
  | .methodEnd => []

/-- Whether a kind may follow another one. -/
def allows (k next : BlockKind) : Bool := k.successors.contains next

/-- A kind as it is written in a body: by its label. -/
def displayName : BlockKind → String
  | .methodEnd => "end-of-method"
  | k => k.label?.getD k.name

/-- What may follow a kind, as it is written in a body. -/
def successorLabels (k : BlockKind) : List String := k.successors.map displayName

theorem ofLabel?_label? {k : BlockKind} {l : String} (h : k.label? = some l) :
    ofLabel? l = some k := by
  cases k <;> simp only [label?, Option.some.injEq, reduceCtorEq] at h <;> subst h <;> rfl

theorem label?_of_ofLabel? {l : String} {k : BlockKind} (h : ofLabel? l = some k) :
    k.label? = some l := by
  unfold ofLabel? at h
  split at h <;> cases h <;> rfl

/-- A label introduces exactly the kind that has it. -/
theorem ofLabel?_eq_some_iff {l : String} {k : BlockKind} :
    ofLabel? l = some k ↔ k.label? = some l :=
  ⟨label?_of_ofLabel?, ofLabel?_label?⟩

end BlockKind

end Scenario
