import Scenario.Block

/-! # From a body to its blocks

A body is cut before every statement with a label. Each label has to be known and allowed after
the block before it, and the last block has to allow the end of the body. -/

namespace Scenario

/-- What is wrong with a label. -/
inductive LabelFault where
  /-- No block has this label. -/
  | unknown (label : String)
  /-- A block of the kind `found` may not follow one of the kind `after`. -/
  | misplaced (found after : BlockKind)
deriving DecidableEq, Repr

namespace LabelFault

/-- The label at fault. -/
def label : LabelFault → String
  | .unknown l => l
  | .misplaced found _ => found.displayName

/-- What could have stood in place of the label. -/
def allowed : LabelFault → List String
  | .unknown _ => []
  | .misplaced _ after => after.successorLabels

/-- The message for a label at fault. -/
def message : LabelFault → String
  | .unknown l => s!"Unrecognized block label: {l}"
  | f => s!"'{f.label}' is not allowed here; instead, use one of: " ++ ", ".intercalate f.allowed

end LabelFault

namespace Block

/-- The kind that a label opens after a block of a given kind. -/
def next (after : BlockKind) (label : String) : Except LabelFault BlockKind :=
  match BlockKind.ofLabel? label with
  | none => .error (.unknown label)
  | some found => if after.allows found then .ok found else .error (.misplaced found after)

/-- The rest of the block that is open, and the blocks after it. The body ends at `last`. -/
def assembleFrom (last : Position) (kind : BlockKind) :
    List Statement → Except (LabelFault × Position) (Block × List Block)
  | [] =>
    if kind.allows .methodEnd then .ok ({ kind }, [])
    else .error (.misplaced .methodEnd kind, last)
  | s :: rest =>
    match s.label with
    | none => (fun (b, bs) => (b.cons s, bs)) <$> assembleFrom last kind rest
    | some l =>
      match next kind l with
      | .error fault => .error (fault, s.position)
      | .ok found => (fun (b, bs) => ({ kind }, b.cons s :: bs)) <$> assembleFrom last found rest

end Block

/-- The blocks of a feature method, or the first label that breaks the grammar and its place. -/
def MethodDecl.assemble (m : MethodDecl) : Except (LabelFault × Position) (List Block) :=
  (fun (b, bs) => b :: bs) <$> Block.assembleFrom m.lastPosition .anonymous m.statements

end Scenario
