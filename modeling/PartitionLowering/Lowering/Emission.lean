import PartitionLowering.Lowering.Emission.Convolution
import PartitionLowering.Lowering.Emission.Elementwise
import PartitionLowering.Lowering.Emission.Pooling
import PartitionLowering.Lowering.Emission.Rearrangement
import PartitionLowering.Lowering.Emission.Reduction

/-!
`Recipe.emit` lowers one node: it emits the operations that compute the node's output and gives
the node of that output, in the engine's layout.
-/

set_option autoImplicit false

namespace PartitionLowering

def Recipe.emit (recipe : Recipe) (scope : Scope) (inputs : List OperandIndex)
    (options : BuiltinOptions) : Emit NodeId :=
  match recipe with
  | .add => Emission.add scope inputs options
  | .mul => Emission.mul scope inputs options
  | .averagePool2d => Emission.averagePool2d scope inputs options
  | .maxPool2d => Emission.maxPool2d scope inputs options
  | .concatenation => Emission.concatenation scope inputs options
  | .conv2d => Emission.conv2d scope inputs options
  | .depthwiseConv2d => Emission.depthwiseConv2d scope inputs options
  | .transposeConv => Emission.transposeConv scope inputs options
  | .transposeConvBias => Emission.transposeConvBias scope inputs options
  | .dequantize => Emission.unary .dequantize (.convert .f32) scope inputs
  | .hardSwish => Emission.unary .hardSwish .hSwish scope inputs
  | .logistic => Emission.unary .logistic .sigmoid scope inputs
  | .relu => Emission.unary .relu .relu scope inputs
  | .relu6 => Emission.unary .relu6 (.clamp 0 6) scope inputs
  | .tanh => Emission.unary .tanh .tanh scope inputs
  | .reshape => Emission.reshape scope inputs options
  | .softmax => Emission.unary .softmax (.softmax 1) scope inputs
  | .mean => Emission.mean scope inputs options
  | .resizeBilinear => Emission.resizeBilinear scope inputs options

end PartitionLowering
