import PartitionLowering.Lowering.Event

/-!
Which node stands for which operand.  An operand that was registered as a graph input is flagged: its
node has the engine's layout already.
-/

set_option autoImplicit false

namespace PartitionLowering

structure Registry where
  bindings : OperandMap NodeId := ∅
  flagged : List OperandIndex := []
  deriving DecidableEq, Inhabited

namespace Registry

def node? (registry : Registry) (index : OperandIndex) : Option NodeId :=
  registry.bindings.get? index

def node (registry : Registry) (index : OperandIndex) : Except Failure NodeId :=
  match registry.node? index with
  | some node => .ok node
  | none => .error (.missingOperand index)

def contains (registry : Registry) (index : OperandIndex) : Bool :=
  registry.bindings.contains index

def size (registry : Registry) : Nat :=
  registry.bindings.size

/-- Lets `node` stand for an operand, in place of any node before it. -/
def bind (registry : Registry) (index : OperandIndex) (node : NodeId) : Registry :=
  { registry with bindings := registry.bindings.insert index node }

/-- What the journal tells of a binding that replaces another one. -/
def replacement (registry : Registry) (index : OperandIndex) (node : NodeId) : List Event :=
  match registry.node? index with
  | some previous => [.rebound index previous node]
  | none => []

def flag (registry : Registry) (index : OperandIndex) : Registry :=
  { registry with flagged := registry.flagged.insert index }

def isFlagged (registry : Registry) (index : OperandIndex) : Bool :=
  decide (index ∈ registry.flagged)

end Registry

end PartitionLowering
