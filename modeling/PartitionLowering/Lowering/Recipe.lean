import PartitionLowering.Host.Operator

/-!
Recipes: the ways of lowering an operator.  Every operator that can be lowered has one; a custom
operator has one under its registered name alone.
-/

set_option autoImplicit false

namespace PartitionLowering

inductive Recipe
  | add
  | mul
  | averagePool2d
  | maxPool2d
  | concatenation
  | conv2d
  | depthwiseConv2d
  | transposeConv
  | transposeConvBias
  | dequantize
  | hardSwish
  | logistic
  | relu
  | relu6
  | tanh
  | reshape
  | softmax
  | mean
  | resizeBilinear
  deriving DecidableEq, Inhabited

namespace Recipe

def ofBuiltin? : BuiltinOperator → Option Recipe
  | .add => some add
  | .mul => some mul
  | .averagePool2d => some averagePool2d
  | .maxPool2d => some maxPool2d
  | .concatenation => some concatenation
  | .conv2d => some conv2d
  | .depthwiseConv2d => some depthwiseConv2d
  | .transposeConv => some transposeConv
  | .dequantize => some dequantize
  | .hardSwish => some hardSwish
  | .logistic => some logistic
  | .relu => some relu
  | .relu6 => some relu6
  | .tanh => some tanh
  | .reshape => some reshape
  | .softmax => some softmax
  | .mean => some mean
  | .resizeBilinear => some resizeBilinear
  | .fullyConnected | .pad | .resizeNearestNeighbor | .sub | .custom => none

def ofOpCode? : OpCode → Option Recipe
  | .builtin operator => ofBuiltin? operator
  | .custom name => if name = OpCode.transposeConvBiasName then some transposeConvBias else none

def label : Recipe → String
  | add => "ADD"
  | mul => "MUL"
  | averagePool2d => "AVERAGE_POOL_2D"
  | maxPool2d => "MAX_POOL_2D"
  | concatenation => "CONCATENATION"
  | conv2d => "CONV_2D"
  | depthwiseConv2d => "DEPTHWISE_CONV_2D"
  | transposeConv => "TRANSPOSE_CONV"
  | transposeConvBias => OpCode.transposeConvBiasName
  | dequantize => "DEQUANTIZE"
  | hardSwish => "HARD_SWISH"
  | logistic => "LOGISTIC"
  | relu => "RELU"
  | relu6 => "RELU6"
  | tanh => "TANH"
  | reshape => "RESHAPE"
  | softmax => "SOFTMAX"
  | mean => "MEAN"
  | resizeBilinear => "RESIZE_BILINEAR"

/-- The name in listings. -/
def text : Recipe → String
  | add => "Add"
  | mul => "Mul"
  | averagePool2d => "AveragePool2d"
  | maxPool2d => "MaxPool2d"
  | concatenation => "Concatenation"
  | conv2d => "Conv2d"
  | depthwiseConv2d => "DepthwiseConv2d"
  | transposeConv => "TransposeConv \x7b custom: false \x7d"
  | transposeConvBias => "TransposeConv \x7b custom: true \x7d"
  | dequantize => "Dequantize"
  | hardSwish => "HardSwish"
  | logistic => "Logistic"
  | relu => "Relu"
  | relu6 => "Relu6"
  | tanh => "Tanh"
  | reshape => "Reshape"
  | softmax => "Softmax"
  | mean => "Mean"
  | resizeBilinear => "ResizeBilinear"

end Recipe

end PartitionLowering
