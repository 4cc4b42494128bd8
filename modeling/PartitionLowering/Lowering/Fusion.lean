import PartitionLowering.Lowering.Draft

/-!
Parts of a node's work that the engine has as operations of their own: the fused activation and the
bias; and the checks on a node's parameters before they become attributes.
-/

set_option autoImplicit false

namespace PartitionLowering.Fusion

/-! ## Parameters -/

def positive (recipe : Recipe) (parameter : String) (value : Int32) :
    Except Failure Nat :=
  if value ≤ 0 then .error (.obstructed (.notPositive recipe parameter value))
  else .ok value.toInt.toNat

def strides (recipe : Recipe) (height width : Int32) : Except Failure Spatial := do
  let height ← positive recipe "stride_height" height
  let width ← positive recipe "stride_width" width
  return ⟨height, width⟩

def dilations (recipe : Recipe) (height width : Int32) : Except Failure Spatial := do
  let height ← positive recipe "dilation_height_factor" height
  let width ← positive recipe "dilation_width_factor" width
  return ⟨height, width⟩

def kernel (recipe : Recipe) (height width : Int32) : Except Failure Spatial := do
  let height ← positive recipe "filter_height" height
  let width ← positive recipe "filter_width" width
  return ⟨height, width⟩

def padMode : Padding → Except Failure PadMode
  | .same => .ok .sameUpper
  | .valid => .ok .valid
  | .unknown => .error (.obstructed .unknownPadding)

def unexpected {α : Type} (recipe : Recipe) (options : BuiltinOptions) : Emit α :=
  throw (.invalidArgument (.optionsOfRecipe recipe options))

/-! ## Fused parts -/

/-- The operation of an activation; the engine has none for a sign bit, and none is needed for no
activation. -/
def activationOp : Activation → Except Failure (Option Op)
  | .none => .ok none
  | .relu => .ok (some .relu)
  | .reluN1To1 => .ok (some (.clamp (-1) 1))
  | .relu6 => .ok (some (.clamp 0 6))
  | .tanh => .ok (some .tanh)
  | .sigmoid => .ok (some .sigmoid)
  | .signBit => .error (.obstructed .signBit)

def activate (node : NodeId) (activation : Activation) : Emit NodeId := do
  match ← activationOp activation with
  | none => return node
  | some op => do
    let result ← Emit.op op [node]
    return result.id

/-- The pattern that puts a bias on the second of at least two axes. -/
def biasPattern (rank : Nat) (channels : Int32) : List Int32 :=
  (List.replicate (max rank 2) 1).set 1 channels

/-- Adds a bias of host dims `[C]` to the channels of a node. -/
def addBias (producer : Node) (bias : NodeId) : List Int32 → Emit Node
  | [] => Emit.obstructed .biasWithoutDims
  | channels :: _ => do
    let pattern ← Emit.int32Constant (biasPattern producer.rank channels)
    let bias ← Emit.op (.reshape true) [bias, pattern.id]
    Emit.op .add [producer.id, bias.id]

/-- Adds the bias at a position of the inputs, where there is one. -/
def addOptionalBias (scope : Scope) (recipe : Recipe) (inputs : List OperandIndex)
    (position : Nat) (producer : Node) : Emit Node := do
  match ← scope.optionalInput inputs position with
  | none => return producer
  | some bias => do
    let dims ← scope.dims recipe inputs position
    addBias producer bias dims

end PartitionLowering.Fusion
