import PartitionLowering.Host.Operator
import PartitionLowering.Host.Options
import PartitionLowering.Host.Tensor

/-!
The partition that a host hands over: nodes in the order in which they run, and the operands that go
in and come out.
-/

set_option autoImplicit false

namespace PartitionLowering

structure ScheduledNode where
  id : Int32
  op : OpCode
  inputs : List OperandIndex
  outputs : List OperandIndex
  options : BuiltinOptions := .none
  deriving DecidableEq, Inhabited

structure Partition where
  inputs : List OperandIndex
  outputs : List OperandIndex
  nodes : List ScheduledNode
  deriving DecidableEq, Inhabited

structure Fixture where
  tensors : TensorContext
  partition : Partition
  deriving DecidableEq, Inhabited

end PartitionLowering
