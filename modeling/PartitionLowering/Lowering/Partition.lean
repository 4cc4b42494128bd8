import PartitionLowering.Lowering.Builder
import PartitionLowering.Lowering.Support
import PartitionLowering.Settings

/-!
Lowering a whole partition.  Each node is checked, the operands that it needs are registered, and it
is lowered by itself; at the end the declared outputs become results.
-/

set_option autoImplicit false

namespace PartitionLowering

/-- A lowered partition: its model, the operands bound to the model's parameters and results in their
order, and the device. -/
structure LoweredPartition where
  model : Model
  computeInputs : List OperandIndex
  outputs : List OperandIndex
  device : String
  deriving DecidableEq, Inhabited

/-- The operands that a node needs as nodes: all that are there, except the output dims of a
transposed convolution, which are read from their tensor. -/
def ScheduledNode.neededInputs (node : ScheduledNode) : List OperandIndex :=
  let scanned :=
    if node.op = .builtin .transposeConv then node.inputs.drop 1 else node.inputs
  scanned.filter fun index => 0 ≤ index

namespace Partition

/-- Registers an operand that has no node yet, as weights or as a graph input; gives it back in the
second case. -/
def materialize (partition : Partition) (tensors : TensorContext) (index : OperandIndex) :
    Build (List OperandIndex) := do
  if (← get).registry.contains index then return []
  let tensor ← Scope.tensor tensors index
  if tensor.allocation = .mmapRo then
    Builder.registerConstant tensor index
    return []
  else if index ∈ partition.inputs then
    Builder.registerInput tensor index
    return [index]
  else return []

/-- Registers operands in order; gives back those that became graph inputs. -/
def materializeAll (partition : Partition) (tensors : TensorContext) :
    List OperandIndex → Build (List OperandIndex)
  | [] => return []
  | index :: rest => do
    let first ← materialize partition tensors index
    let others ← materializeAll partition tensors rest
    return first ++ others

def lowerNode (partition : Partition) (tensors : TensorContext) (node : ScheduledNode) :
    Build (List OperandIndex) := do
  Support.check node.op node.inputs node.options tensors
  let inputs ← materializeAll partition tensors node.neededInputs
  Builder.lowerNode node.id node tensors
  return inputs

/-- Lowers nodes in order; gives back the operands that became graph inputs. -/
def lowerNodes (partition : Partition) (tensors : TensorContext) :
    List ScheduledNode → Build (List OperandIndex)
  | [] => return []
  | node :: rest => do
    let first ← lowerNode partition tensors node
    let others ← lowerNodes partition tensors rest
    return first ++ others

def build (partition : Partition) (tensors : TensorContext) (settings : Settings) :
    Build (List OperandIndex) := do
  if partition.nodes = [] then throw (.invalidArgument .noNodes)
  let inputs ← lowerNodes partition tensors partition.nodes
  Builder.finalize partition.outputs
  let emitted := (← get).graph.size
  Builder.note (.partitionLowered partition.nodes.length emitted settings.device)
  return inputs

/-- Lowers a partition and gives the journal too, which a failure does not cut. -/
def lowerWithJournal (partition : Partition) (tensors : TensorContext) (settings : Settings) :
    Except Failure LoweredPartition × List Event :=
  match partition.build tensors settings {} with
  | .ok computeInputs builder =>
    (.ok { model := builder.model, computeInputs, outputs := partition.outputs,
           device := settings.device },
      builder.draft.journal)
  | .error failure builder => (.error failure, builder.draft.journal)

def lower (partition : Partition) (tensors : TensorContext) (settings : Settings) :
    Except Failure LoweredPartition :=
  (partition.lowerWithJournal tensors settings).1

end Partition

end PartitionLowering
