import PartitionLowering.Lowering.Layout
import PartitionLowering.Lowering.Fusion

/-!
Lowering of convolutions, plain, depthwise and transposed.  Weights come in the host's order and are
permuted for the engine; a filter that is a graph input has been brought into the engine's layout
before, and is permuted from there.
-/

set_option autoImplicit false

namespace PartitionLowering.Emission

/-- A filter held with its outer extent last becomes one with that extent first. -/
def lastAxisFirst : List Int64 := [3, 0, 1, 2]

/-- Exchanges the two outer extents of a filter. -/
def swapOuterAxes : List Int64 := [1, 0, 2, 3]

/-! ## Plain convolutions -/

/-- The filter of a convolution as output channels, input channels, height, width. -/
def convFilter (scope : Scope) (inputs : List OperandIndex) (filter : NodeId) : Emit NodeId :=
  if scope.isFlagged inputs 1 then pure filter
  else do
    let filter ← Emit.transpose filter Layout.toEngineOrder
    return filter.id

def conv2d (scope : Scope) (inputs : List OperandIndex) : BuiltinOptions → Emit NodeId
  | .conv2d options => do
    let input ← scope.input .conv2d inputs 0
    let filter ← scope.input .conv2d inputs 1
    let filter ← convFilter scope inputs filter
    let strides ← Fusion.strides .conv2d options.strideHeight options.strideWidth
    let dilations ←
      Fusion.dilations .conv2d options.dilationHeightFactor options.dilationWidthFactor
    let padMode ← Fusion.padMode options.padding
    let result ← Emit.op (.convolution ⟨strides, dilations, padMode⟩) [input, filter]
    let result ← Fusion.addOptionalBias scope .conv2d inputs 2 result
    Fusion.activate result.id options.activation
  | options => Fusion.unexpected .conv2d options

/-! ## Depthwise convolutions -/

def inputChannels (dims : List Int32) : Except Failure Nat :=
  match dims[3]? with
  | some channels => Fusion.positive .depthwiseConv2d "input channels" channels
  | none => .error (.obstructed (.inputNotNhwc .depthwiseConv2d dims))

/-- The shape of a depthwise filter with its output channels split into groups, one group for each
share of the input channels that a filter takes. -/
def groupedShape (channels : Nat) (filter : Shape) : Except Failure Shape :=
  let filters := filter.getD 0 0
  let perGroup := filter.getD 1 0
  if perGroup = 0 ∨ channels % perGroup ≠ 0 then
    .error (.obstructed (.unevenGroups channels perGroup))
  else
    let groups := channels / perGroup
    if filters % groups ≠ 0 then
      .error (.obstructed (.unevenFilters filters groups))
    else .ok (groups :: filters / groups :: filter.drop 1)

def depthwiseConv2d (scope : Scope) (inputs : List OperandIndex) : BuiltinOptions → Emit NodeId
  | .depthwiseConv2d options => do
    let input ← scope.input .depthwiseConv2d inputs 0
    let filter ← scope.input .depthwiseConv2d inputs 1
    let filter ←
      Emit.transpose filter (if scope.isFlagged inputs 1 then swapOuterAxes else lastAxisFirst)
    let channels ← inputChannels (← scope.dims .depthwiseConv2d inputs 0)
    let grouped ← groupedShape channels filter.shape
    let pattern ← Emit.int64Constant (grouped.map Int64.ofNat)
    let filter ← Emit.op (.reshape false) [filter.id, pattern.id]
    let strides ← Fusion.strides .depthwiseConv2d options.strideHeight options.strideWidth
    let dilations ←
      Fusion.dilations .depthwiseConv2d options.dilationHeightFactor options.dilationWidthFactor
    let padMode ← Fusion.padMode options.padding
    let result ← Emit.op (.groupConvolution ⟨strides, dilations, padMode⟩) [input, filter.id]
    let result ← Fusion.addOptionalBias scope .depthwiseConv2d inputs 2 result
    Fusion.activate result.id options.activation
  | options => Fusion.unexpected .depthwiseConv2d options

/-! ## Transposed convolutions -/

/-- An unknown padding counts as `same`. -/
def transposedPadMode : Padding → PadMode
  | .valid => .valid
  | .same | .unknown => .sameUpper

/-- A transposed convolution of the operands at two positions with the given output height and
width. -/
def backpropData (scope : Scope) (recipe : Recipe) (inputs : List OperandIndex)
    (inputPosition weightsPosition : Nat) (options : TransposeConvOptions)
    (height width : Int32) : Emit Node := do
  let input ← scope.input recipe inputs inputPosition
  let weights ← scope.input recipe inputs weightsPosition
  let weights ←
    Emit.transpose weights
      (if scope.isFlagged inputs weightsPosition then swapOuterAxes else lastAxisFirst)
  let strides ← Fusion.strides recipe options.strideHeight options.strideWidth
  let sizes ← Emit.int32Constant [height, width]
  Emit.op
    (.convolutionBackpropData ⟨strides, ⟨1, 1⟩, transposedPadMode options.padding⟩)
    [input, weights.id, sizes.id]

def outputDims (scope : Scope) (inputs : List OperandIndex) : Except Failure (List Int32) := do
  match inputs.head? with
  | none => throw (.obstructed .missingOutputShape)
  | some index =>
    match (← Scope.tensor scope.tensors index).int32Values? with
    | none => throw (.obstructed .outputShapeWithoutData)
    | some dims => return dims

/-- Inputs: output dims, weights, data, and the bias where there is one. -/
def transposeConv (scope : Scope) (inputs : List OperandIndex) : BuiltinOptions → Emit NodeId
  | .transposeConv options => do
    let dims ← outputDims scope inputs
    match dims with
    | _ :: height :: width :: _ => do
      let result ← backpropData scope .transposeConv inputs 2 1 options height width
      let result ← Fusion.addOptionalBias scope .transposeConv inputs 3 result
      Fusion.activate result.id options.activation
    | _ => Emit.obstructed (.outputShapeNotNhwc dims)
  | options => Fusion.unexpected .transposeConv options

/-- Inputs: data, weights, bias.  The output is twice as high and twice as wide as the data. -/
def transposeConvBias (scope : Scope) (inputs : List OperandIndex) : BuiltinOptions → Emit NodeId
  | .transposeConv options => do
    let dims ← scope.dims .transposeConvBias inputs 0
    match dims with
    | _ :: height :: width :: _ => do
      let result ←
        backpropData scope .transposeConvBias inputs 0 1 options (height * 2) (width * 2)
      let bias ← scope.input .transposeConvBias inputs 2
      let biasDims ← scope.dims .transposeConvBias inputs 2
      let result ← Fusion.addBias result bias biasDims
      return result.id
    | _ => Emit.obstructed (.inputNotNhwc .transposeConvBias dims)
  | options => Fusion.unexpected .transposeConvBias options

end PartitionLowering.Emission
