/-!
Operators of the host: the builtin ones and custom ones known by a registered name.
-/

set_option autoImplicit false

namespace PartitionLowering

inductive BuiltinOperator
  | add
  | averagePool2d
  | concatenation
  | conv2d
  | depthwiseConv2d
  | dequantize
  | fullyConnected
  | hardSwish
  | logistic
  | maxPool2d
  | mean
  | mul
  | pad
  | relu
  | relu6
  | reshape
  | resizeBilinear
  | resizeNearestNeighbor
  | softmax
  | sub
  | tanh
  | transposeConv
  | custom
  deriving DecidableEq, Inhabited

namespace BuiltinOperator

def all : List BuiltinOperator :=
  [.add, .averagePool2d, .concatenation, .conv2d, .depthwiseConv2d, .dequantize, .fullyConnected,
    .hardSwish, .logistic, .maxPool2d, .mean, .mul, .pad, .relu, .relu6, .reshape, .resizeBilinear,
    .resizeNearestNeighbor, .softmax, .sub, .tanh, .transposeConv, .custom]

def key : BuiltinOperator → String
  | add => "add"
  | averagePool2d => "average_pool2d"
  | concatenation => "concatenation"
  | conv2d => "conv2d"
  | depthwiseConv2d => "depthwise_conv2d"
  | dequantize => "dequantize"
  | fullyConnected => "fully_connected"
  | hardSwish => "hard_swish"
  | logistic => "logistic"
  | maxPool2d => "max_pool2d"
  | mean => "mean"
  | mul => "mul"
  | pad => "pad"
  | relu => "relu"
  | relu6 => "relu6"
  | reshape => "reshape"
  | resizeBilinear => "resize_bilinear"
  | resizeNearestNeighbor => "resize_nearest_neighbor"
  | softmax => "softmax"
  | sub => "sub"
  | tanh => "tanh"
  | transposeConv => "transpose_conv"
  | custom => "custom"

def label : BuiltinOperator → String
  | add => "Add"
  | averagePool2d => "AveragePool2d"
  | concatenation => "Concatenation"
  | conv2d => "Conv2d"
  | depthwiseConv2d => "DepthwiseConv2d"
  | dequantize => "Dequantize"
  | fullyConnected => "FullyConnected"
  | hardSwish => "HardSwish"
  | logistic => "Logistic"
  | maxPool2d => "MaxPool2d"
  | mean => "Mean"
  | mul => "Mul"
  | pad => "Pad"
  | relu => "Relu"
  | relu6 => "Relu6"
  | reshape => "Reshape"
  | resizeBilinear => "ResizeBilinear"
  | resizeNearestNeighbor => "ResizeNearestNeighbor"
  | softmax => "Softmax"
  | sub => "Sub"
  | tanh => "Tanh"
  | transposeConv => "TransposeConv"
  | custom => "Custom"

def ofKey? (key : String) : Option BuiltinOperator :=
  all.find? fun operator => operator.key = key

end BuiltinOperator

inductive OpCode
  | builtin (operator : BuiltinOperator)
  | custom (name : String)
  deriving DecidableEq, Inhabited

namespace OpCode

/-- The registered name of the transposed convolution with a fused bias. -/
def transposeConvBiasName : String := "Convolution2DTransposeBias"

def text : OpCode → String
  | builtin operator => operator.label
  | custom name => "custom:" ++ name

end OpCode

end PartitionLowering
