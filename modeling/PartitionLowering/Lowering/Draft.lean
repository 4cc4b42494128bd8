import PartitionLowering.Engine.Graph
import PartitionLowering.Lowering.Registry

/-!
Emitting nodes.  A draft is a graph under construction and its journal; an `Emit` step adds to it and
may fail, and what it added before it failed stays.  A `Scope` is what the lowering of a node may look
up.
-/

set_option autoImplicit false

namespace PartitionLowering

structure Draft where
  graph : Graph := {}
  journal : List Event := []
  deriving DecidableEq, Inhabited

/-- Steps that add to a draft, or fail and leave it as it then is. -/
abbrev Emit := EStateM Failure Draft

/-- A look-up that may fail is a step that changes nothing. -/
instance {σ : Type} : MonadLift (Except Failure) (EStateM Failure σ) where
  monadLift
    | .ok value => pure value
    | .error failure => throw failure

namespace Emit

def note (event : Event) : Emit Unit :=
  modify fun draft => { draft with journal := draft.journal ++ [event] }

def obstructed {α : Type} (obstacle : Obstacle) : Emit α :=
  throw (.obstructed obstacle)

/-- Takes over a graph with a node added to it. -/
def keep (added : Node × Graph) : Emit Node := do
  modify fun draft => { draft with graph := added.2 }
  return added.1

def parameter (elementType : ElementType) (shape : Shape) : Emit Node := do
  keep ((← get).graph.addParameter elementType shape)

def int32Constant (values : List Int32) : Emit Node := do
  keep ((← get).graph.addInt32Constant values)

def int64Constant (values : List Int64) : Emit Node := do
  keep ((← get).graph.addInt64Constant values)

def op (op : Op) (inputs : List NodeId) : Emit Node := do
  match (← get).graph.addOp op inputs with
  | .ok added => keep added
  | .error error => obstructed (.shape error)

def transpose (node : NodeId) (order : List Int64) : Emit Node := do
  let order ← int64Constant order
  op .transpose [node, order.id]

end Emit

structure Scope where
  registry : Registry
  tensors : TensorContext

namespace Scope

def tensor (tensors : TensorContext) (index : OperandIndex) : Except Failure Tensor :=
  match tensors.get? index with
  | some tensor => .ok tensor
  | none => .error (.missingOperand index)

/-- The operand at a position of a node's inputs, which has to be there. -/
def operand (recipe : Recipe) (inputs : List OperandIndex) (position : Nat) :
    Except Failure OperandIndex :=
  match inputs[position]? with
  | some index => .ok index
  | none => .error (.obstructed (.missingInput recipe position))

def input (scope : Scope) (recipe : Recipe) (inputs : List OperandIndex)
    (position : Nat) : Except Failure NodeId := do
  let index ← operand recipe inputs position
  if index < 0 then throw (.missingOperand index)
  scope.registry.node index

/-- The node of the operand at a position; an operand that is absent or negative has none. -/
def optionalInput (scope : Scope) (inputs : List OperandIndex) (position : Nat) :
    Except Failure (Option NodeId) :=
  match inputs[position]? with
  | some index => if 0 ≤ index then some <$> scope.registry.node index else .ok none
  | none => .ok none

def dims (scope : Scope) (recipe : Recipe) (inputs : List OperandIndex)
    (position : Nat) : Except Failure (List Int32) := do
  let index ← operand recipe inputs position
  return (← tensor scope.tensors index).dims

/-- Whether the operand at a position was registered as a graph input. -/
def isFlagged (scope : Scope) (inputs : List OperandIndex) (position : Nat) : Bool :=
  inputs[position]?.any scope.registry.isFlagged

end Scope

end PartitionLowering
