import PartitionLowering.Engine.ShapeError
import PartitionLowering.Host.TransposeConvBlob
import PartitionLowering.Lowering.Recipe

/-!
Why a partition cannot be lowered.  `Misuse` lists arguments that make no sense by themselves,
`Obstacle` what stops the lowering of a node.
-/

set_option autoImplicit false

namespace PartitionLowering

inductive Misuse
  | inputIndex (index : OperandIndex)
  | inputWithoutDims (index : OperandIndex)
  | constantIndex (index : OperandIndex)
  | constantWithoutDims (index : OperandIndex)
  | constantWithoutData (index : OperandIndex)
  | payloadSize (index : OperandIndex) (got expected : Nat)
  | constantShape (index : OperandIndex) (error : ShapeError)
  | nodeId (id : Int32)
  | nodeWithoutOutputs (id : Int32)
  | noOutputs
  | noNodes
  | unknownNode (id : NodeId)
  | scalarLayout
  | inputCount (expected got : Nat)
  | leastInputCount (expected got : Nat)
  | optionsOfOp (op : OpCode) (options : BuiltinOptions)
  | optionsOfRecipe (recipe : Recipe) (options : BuiltinOptions)
  | softmaxBeta (beta : Float32)
  | blob (error : BlobError)
  deriving DecidableEq

namespace Misuse

def message : Misuse → String
  | inputIndex index => "input operand index " ++ int32Text index
  | inputWithoutDims index => "input " ++ int32Text index ++ " has no dims"
  | constantIndex index => "constant operand index " ++ int32Text index
  | constantWithoutDims index => "constant " ++ int32Text index ++ " has no dims"
  | constantWithoutData index => "constant " ++ int32Text index ++ " has no data"
  | payloadSize index got expected =>
    "constant " ++ int32Text index ++ s!": payload is {got} bytes, shape needs {expected}"
  | constantShape index error => "constant " ++ int32Text index ++ ": " ++ error.message
  | nodeId id => "node id " ++ int32Text id
  | nodeWithoutOutputs id => "node " ++ int32Text id ++ " has no outputs"
  | noOutputs => "no outputs to finalize"
  | noNodes => "subgraph has no nodes"
  | unknownNode id => s!"node %{id} does not exist"
  | scalarLayout => "layout conversion of a scalar"
  | inputCount expected got => s!"expected {expected} inputs, got {got}"
  | leastInputCount expected got => s!"expected at least {expected} inputs, got {got}"
  | optionsOfOp op options => op.text ++ " with options " ++ options.text
  | optionsOfRecipe recipe options =>
    recipe.label ++ ": unexpected options " ++ options.text
  | softmaxBeta beta => "softmax beta " ++ Style.plain.text32 beta ++ " != 1"
  | blob error => error.message

end Misuse

inductive Obstacle
  | missingInput (recipe : Recipe) (position : Nat)
  | notPositive (recipe : Recipe) (parameter : String) (value : Int32)
  | fewParts
  | inputNotNhwc (recipe : Recipe) (dims : List Int32)
  | unevenGroups (channels perGroup : Nat)
  | unevenFilters (filters groups : Nat)
  | missingAxes
  | axesWithoutData
  | noTargetShape
  | missingOutputShape
  | outputShapeWithoutData
  | outputShapeNotNhwc (dims : List Int32)
  | signBit
  | unknownPadding
  | biasWithoutDims
  | shape (error : ShapeError)
  deriving DecidableEq

namespace Obstacle

def within (recipe : Recipe) (reason : String) : String :=
  recipe.label ++ ": " ++ reason

def message : Obstacle → String
  | missingInput recipe position => within recipe s!"missing input {position}"
  | notPositive recipe parameter value =>
    within recipe (parameter ++ " must be positive, got " ++ int32Text value)
  | fewParts => within .concatenation "needs at least two inputs"
  | inputNotNhwc recipe dims =>
    within recipe ("input dims " ++ int32Listing dims ++ " are not NHWC")
  | unevenGroups channels perGroup =>
    within .depthwiseConv2d
      s!"{channels} input channels do not split into groups of {perGroup}"
  | unevenFilters filters groups =>
    within .depthwiseConv2d s!"{filters} filters do not divide into {groups} groups"
  | missingAxes => within .mean "missing axes"
  | axesWithoutData => within .mean "axes carry no i32 data"
  | noTargetShape => within .reshape "no target shape"
  | missingOutputShape => within .transposeConv "missing output shape"
  | outputShapeWithoutData => within .transposeConv "output shape has no i32 data"
  | outputShapeNotNhwc dims =>
    within .transposeConv ("output shape " ++ int32Listing dims ++ " is not NHWC")
  | signBit => "activation: sign bit is not supported"
  | unknownPadding => "padding: unknown padding type"
  | biasWithoutDims => "bias: bias has no dims"
  | shape error => error.message

end Obstacle

inductive Failure
  | unsupportedOperator (op : OpCode)
  | unsupportedType (type : TensorType)
  | unsupportedRank (rank : Nat)
  | degenerateShape (dims : List Int32)
  | missingOperand (index : OperandIndex)
  | invalidArgument (misuse : Misuse)
  | obstructed (obstacle : Obstacle)
  deriving DecidableEq

namespace Failure

def message : Failure → String
  | unsupportedOperator op => "unsupported operator: " ++ op.text
  | unsupportedType type => "unsupported tensor type: " ++ type.label
  | unsupportedRank rank => s!"unsupported rank {rank}"
  | degenerateShape dims => "degenerate shape " ++ int32Listing dims
  | missingOperand index => "operand " ++ int32Text index ++ " has no tensor or node"
  | invalidArgument misuse => "invalid argument: " ++ misuse.message
  | obstructed obstacle => "translation failed: " ++ obstacle.message

end Failure

def Recipe.ofOpCode (op : OpCode) : Except Failure Recipe :=
  match ofOpCode? op with
  | some recipe => .ok recipe
  | none => .error (.unsupportedOperator op)

end PartitionLowering
