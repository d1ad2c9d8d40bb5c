import Scenario.Block.Kind
import Scenario.Declaration

/-! # Blocks of a method body -/

namespace Scenario

/-- A phase of a method: the statements from a label up to the next one, and the descriptions
among them. -/
structure Block where
  kind : BlockKind
  descriptions : List String := []
  statements : List Statement := []
deriving Repr

namespace Block

/-- The label that introduced the block. -/
def label (b : Block) : String := b.kind.displayName

/-- Whether the block stands before the first label. -/
def isAnonymous (b : Block) : Bool := b.kind == .anonymous

/-- Whether the block has neither descriptions nor statements. -/
def isEmpty (b : Block) : Bool := b.descriptions.isEmpty && b.statements.isEmpty

/-- A short text for the block. -/
def summary (b : Block) : String := s!"Block({b.label}: {b.statements.length} statements)"

/-- A statement in front of a block: a bare literal describes the block, any other statement
belongs to it. -/
def cons (s : Statement) (b : Block) : Block :=
  match s.literal with
  | some d => { b with descriptions := d :: b.descriptions }
  | none => { b with statements := s :: b.statements }

@[simp] theorem kind_cons (s : Statement) (b : Block) : (b.cons s).kind = b.kind := by
  unfold cons; split <;> rfl

@[simp] theorem descriptions_cons (s : Statement) (b : Block) :
    (b.cons s).descriptions = s.literal.toList ++ b.descriptions := by
  unfold cons; split <;> simp_all

@[simp] theorem statements_cons (s : Statement) (b : Block) :
    (b.cons s).statements = if s.literal.isNone then s :: b.statements else b.statements := by
  unfold cons; split <;> simp_all

/-- A whole body as one block. -/
def single (statements : List Statement) : Block := { kind := .anonymous, statements }

end Block

end Scenario
