import PartitionLowering.Host.Partition
import PartitionLowering.Lowering.Draft

/-!
Which nodes can be delegated.  Each operator that can has a rule on its inputs; a node is checked
against the rule of its operator, and the first reason against it is reported.
-/

set_option autoImplicit false

namespace PartitionLowering

/-- The element types and the ranks allowed at each input position.  A rule with ranks fixes the
count of inputs; one without bounds it from below. -/
structure SupportRule where
  types : List (List TensorType)
  ranks : Option (List (List Nat))
  deriving DecidableEq

namespace Support

def upToFour : List Nat := [1, 2, 3, 4]

def binaryRule : SupportRule := ⟨[[.float32], [.float32]], some [upToFour, upToFour]⟩

def unaryRule : SupportRule := ⟨[[.float32]], none⟩

def convRule : SupportRule := ⟨[[.float32], [.float32]], some [[4], [4]]⟩

def convBiasRule : SupportRule :=
  ⟨[[.float32], [.float32], [.float32]], some [[4], [4], [1]]⟩

def concatenationRule : SupportRule := ⟨[[.float32], [.float32]], some [[4], [4]]⟩

def dequantizeRule : SupportRule := ⟨[[.float16]], none⟩

def reshapeRule : SupportRule := ⟨[[.float32], [.int32]], some [upToFour, [1]]⟩

def meanRule : SupportRule := ⟨[[.float32]], some [[4], [1]]⟩

def transposeConvRule : SupportRule :=
  ⟨[[.int32], [.float32], [.float32]], some [[1], [4], [4]]⟩

def transposeConvBiasRule : SupportRule :=
  ⟨[[.int32], [.float32], [.float32], [.float32]], some [[1], [4], [4], [1]]⟩

def rule? (op : OpCode) (inputCount : Nat) : Option SupportRule :=
  match op with
  | .custom name => if name = OpCode.transposeConvBiasName then some convBiasRule else none
  | .builtin operator => match operator with
    | .add | .mul => some binaryRule
    | .averagePool2d | .maxPool2d => some unaryRule
    | .conv2d | .depthwiseConv2d => some (if inputCount = 2 then convRule else convBiasRule)
    | .concatenation => some concatenationRule
    | .dequantize => some dequantizeRule
    | .resizeBilinear | .relu | .relu6 | .logistic | .hardSwish | .tanh => some unaryRule
    | .softmax => some unaryRule
    | .reshape => some reshapeRule
    | .mean => some meanRule
    | .transposeConv => some (if inputCount = 3 then transposeConvRule else transposeConvBiasRule)
    | .fullyConnected | .pad | .resizeNearestNeighbor | .sub | .custom => none

def optionsMatch : OpCode → BuiltinOptions → Bool
  | .custom _, .transposeConv _ => true
  | .custom _, _ => false
  | .builtin .add, .add _ => true
  | .builtin .mul, .mul _ => true
  | .builtin .averagePool2d, .pool2d _ => true
  | .builtin .maxPool2d, .pool2d _ => true
  | .builtin .conv2d, .conv2d _ => true
  | .builtin .depthwiseConv2d, .depthwiseConv2d _ => true
  | .builtin .concatenation, .concatenation _ => true
  | .builtin .mean, .reducer _ => true
  | .builtin .resizeBilinear, .resizeBilinear _ => true
  | .builtin .softmax, .softmax _ => true
  | .builtin .transposeConv, .transposeConv _ => true
  | .builtin .reshape, .reshape _ => true
  | .builtin .reshape, .none => true
  | .builtin .dequantize, .none => true
  | .builtin .hardSwish, .none => true
  | .builtin .logistic, .none => true
  | .builtin .relu, .none => true
  | .builtin .relu6, .none => true
  | .builtin .tanh, .none => true
  | .builtin _, _ => false

/-- The inputs that a rule checks, where their count is right. -/
def checkedInputs (rule : SupportRule) (inputs : List OperandIndex) :
    Except Failure (List OperandIndex) :=
  match rule.ranks with
  | some ranks =>
    if inputs.length = ranks.length then .ok inputs
    else .error (.invalidArgument (.inputCount ranks.length inputs.length))
  | none =>
    if rule.types.length ≤ inputs.length then .ok (inputs.take rule.types.length)
    else .error (.invalidArgument (.leastInputCount rule.types.length inputs.length))

def checkOperand (rule : SupportRule) (tensors : TensorContext) (position : Nat)
    (index : OperandIndex) : Except Failure Unit := do
  if index < 0 then throw (.missingOperand index)
  let tensor ← Scope.tensor tensors index
  if rule.types[position]?.any (tensor.tensorType ∉ ·) then
    throw (.unsupportedType tensor.tensorType)
  if (rule.ranks.bind (·[position]?)).any (tensor.rank ∉ ·) then
    throw (.unsupportedRank tensor.rank)
  if tensor.rank = 0 then throw (.unsupportedRank 0)
  if (∃ dim ∈ tensor.dims, dim ≤ 0) ∨ tensor.elementCount? = none then
    throw (.degenerateShape tensor.dims)

def checkOperands (rule : SupportRule) (tensors : TensorContext) :
    Nat → List OperandIndex → Except Failure Unit
  | _, [] => .ok ()
  | position, index :: rest => do
    checkOperand rule tensors position index
    checkOperands rule tensors (position + 1) rest

/-- Checks that options are those of the operator; a softmax has a `beta` of one. -/
def checkOptions (op : OpCode) (options : BuiltinOptions) : Except Failure Unit :=
  if optionsMatch op options then
    match options with
    | .softmax softmax =>
      if softmax.beta == 1 then .ok () else .error (.invalidArgument (.softmaxBeta softmax.beta))
    | _ => .ok ()
  else .error (.invalidArgument (.optionsOfOp op options))

/-- Checks one operation and gives the first reason against it. -/
def check (op : OpCode) (inputs : List OperandIndex) (options : BuiltinOptions)
    (tensors : TensorContext) : Except Failure Unit := do
  match rule? op inputs.length with
  | none => throw (.unsupportedOperator op)
  | some rule => do
    let operands ← checkedInputs rule inputs
    checkOperands rule tensors 0 operands
    checkOptions op options

/-- What a check decides, and what the journal tells of a refusal. -/
structure Verdict where
  supported : Bool
  journal : List Event
  deriving DecidableEq

def verdict (refusal : Failure → Event) : Except Failure Unit → Verdict
  | .ok () => ⟨true, []⟩
  | .error failure => ⟨false, [refusal failure]⟩

def ofOp (op : OpCode) (inputs : List OperandIndex) (options : BuiltinOptions)
    (tensors : TensorContext) : Verdict :=
  verdict (.opRejected op) (check op inputs options tensors)

def ofNode (node : ScheduledNode) (tensors : TensorContext) : Verdict :=
  verdict (.nodeRejected node.id node.op) (check node.op node.inputs node.options tensors)

/-- The nodes that can be delegated, in schedule order. -/
def supportedNodes (partition : Partition) (tensors : TensorContext) : List ScheduledNode :=
  partition.nodes.filter fun node => (ofNode node tensors).supported

/-- What the journal tells of the nodes that cannot. -/
def refusals (partition : Partition) (tensors : TensorContext) : List Event :=
  partition.nodes.flatMap fun node => (ofNode node tensors).journal

end Support

end PartitionLowering
