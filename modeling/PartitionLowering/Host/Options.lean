import PartitionLowering.Text.Listing
import PartitionLowering.Decimal.Style

/-!
The parameters of builtin operators.  Every options record lists its fields by name, in the order in
which they are written; its text and its fixture form are both made from that list.
-/

set_option autoImplicit false

namespace PartitionLowering

inductive Padding
  | unknown
  | same
  | valid
  deriving DecidableEq, Inhabited

namespace Padding

def all : List Padding := [.unknown, .same, .valid]

def key : Padding → String
  | unknown => "unknown"
  | same => "same"
  | valid => "valid"

def label : Padding → String
  | unknown => "Unknown"
  | same => "Same"
  | valid => "Valid"

def ofKey? (key : String) : Option Padding :=
  all.find? fun padding => padding.key = key

end Padding

inductive Activation
  | none
  | relu
  | reluN1To1
  | relu6
  | tanh
  | signBit
  | sigmoid
  deriving DecidableEq, Inhabited

namespace Activation

def all : List Activation := [.none, .relu, .reluN1To1, .relu6, .tanh, .signBit, .sigmoid]

def key : Activation → String
  | none => "none"
  | relu => "relu"
  | reluN1To1 => "relu_n1_to1"
  | relu6 => "relu6"
  | tanh => "tanh"
  | signBit => "sign_bit"
  | sigmoid => "sigmoid"

def label : Activation → String
  | none => "None"
  | relu => "Relu"
  | reluN1To1 => "ReluN1To1"
  | relu6 => "Relu6"
  | tanh => "Tanh"
  | signBit => "SignBit"
  | sigmoid => "Sigmoid"

def ofKey? (key : String) : Option Activation :=
  all.find? fun activation => activation.key = key

end Activation

/-- The value of one field of an options record. -/
inductive OptionValue
  | padding (value : Padding)
  | activation (value : Activation)
  | integer (value : Int32)
  | flag (value : Bool)
  | real (value : Float32)
  | integers (values : List Int32)
  deriving DecidableEq

namespace OptionValue

def text : OptionValue → String
  | padding value => value.label
  | activation value => value.label
  | integer value => int32Text value
  | flag value => toString value
  | real value => Style.detailed.text32 value
  | integers values => int32Listing values

end OptionValue

abbrev OptionFields := List (String × OptionValue)

/-- The text of a record: its name and, between braces, its fields. -/
def recordText (name : String) (fields : OptionFields) : String :=
  name ++ " \x7b " ++ commaSeparated (fields.map fun field => field.1 ++ ": " ++ field.2.text) ++
    " \x7d"

structure ArithmeticOptions where
  activation : Activation := .none
  deriving DecidableEq, Inhabited

structure Conv2dOptions where
  padding : Padding := .same
  strideWidth : Int32 := 1
  strideHeight : Int32 := 1
  dilationWidthFactor : Int32 := 1
  dilationHeightFactor : Int32 := 1
  activation : Activation := .none
  deriving DecidableEq, Inhabited

structure DepthwiseConv2dOptions where
  padding : Padding := .same
  strideWidth : Int32 := 1
  strideHeight : Int32 := 1
  depthMultiplier : Int32 := 1
  dilationWidthFactor : Int32 := 1
  dilationHeightFactor : Int32 := 1
  activation : Activation := .none
  deriving DecidableEq, Inhabited

structure Pool2dOptions where
  padding : Padding := .valid
  strideWidth : Int32 := 1
  strideHeight : Int32 := 1
  filterWidth : Int32 := 1
  filterHeight : Int32 := 1
  activation : Activation := .none
  deriving DecidableEq, Inhabited

structure ConcatenationOptions where
  axis : Int32 := 0
  activation : Activation := .none
  deriving DecidableEq, Inhabited

structure ReducerOptions where
  keepDims : Bool := false
  deriving DecidableEq, Inhabited

structure ResizeBilinearOptions where
  alignCorners : Bool := false
  halfPixelCenters : Bool := false
  deriving DecidableEq, Inhabited

structure SoftmaxOptions where
  beta : Float32 := 1
  deriving DecidableEq, Inhabited

structure TransposeConvOptions where
  padding : Padding := .same
  strideWidth : Int32 := 1
  strideHeight : Int32 := 1
  activation : Activation := .none
  deriving DecidableEq, Inhabited

structure ReshapeOptions where
  newShape : List Int32 := []
  deriving DecidableEq, Inhabited

namespace ArithmeticOptions

def fields (options : ArithmeticOptions) : OptionFields :=
  [("activation", .activation options.activation)]

end ArithmeticOptions

namespace Conv2dOptions

def fields (options : Conv2dOptions) : OptionFields :=
  [("padding", .padding options.padding),
    ("stride_width", .integer options.strideWidth),
    ("stride_height", .integer options.strideHeight),
    ("dilation_width_factor", .integer options.dilationWidthFactor),
    ("dilation_height_factor", .integer options.dilationHeightFactor),
    ("activation", .activation options.activation)]

end Conv2dOptions

namespace DepthwiseConv2dOptions

def fields (options : DepthwiseConv2dOptions) : OptionFields :=
  [("padding", .padding options.padding),
    ("stride_width", .integer options.strideWidth),
    ("stride_height", .integer options.strideHeight),
    ("depth_multiplier", .integer options.depthMultiplier),
    ("dilation_width_factor", .integer options.dilationWidthFactor),
    ("dilation_height_factor", .integer options.dilationHeightFactor),
    ("activation", .activation options.activation)]

end DepthwiseConv2dOptions

namespace Pool2dOptions

def fields (options : Pool2dOptions) : OptionFields :=
  [("padding", .padding options.padding),
    ("stride_width", .integer options.strideWidth),
    ("stride_height", .integer options.strideHeight),
    ("filter_width", .integer options.filterWidth),
    ("filter_height", .integer options.filterHeight),
    ("activation", .activation options.activation)]

end Pool2dOptions

namespace ConcatenationOptions

def fields (options : ConcatenationOptions) : OptionFields :=
  [("axis", .integer options.axis), ("activation", .activation options.activation)]

end ConcatenationOptions

namespace ReducerOptions

def fields (options : ReducerOptions) : OptionFields :=
  [("keep_dims", .flag options.keepDims)]

end ReducerOptions

namespace ResizeBilinearOptions

def fields (options : ResizeBilinearOptions) : OptionFields :=
  [("align_corners", .flag options.alignCorners),
    ("half_pixel_centers", .flag options.halfPixelCenters)]

end ResizeBilinearOptions

namespace SoftmaxOptions

def fields (options : SoftmaxOptions) : OptionFields :=
  [("beta", .real options.beta)]

end SoftmaxOptions

namespace TransposeConvOptions

def fields (options : TransposeConvOptions) : OptionFields :=
  [("padding", .padding options.padding),
    ("stride_width", .integer options.strideWidth),
    ("stride_height", .integer options.strideHeight),
    ("activation", .activation options.activation)]

def text (options : TransposeConvOptions) : String :=
  recordText "TransposeConvOptions" options.fields

end TransposeConvOptions

namespace ReshapeOptions

def fields (options : ReshapeOptions) : OptionFields :=
  [("new_shape", .integers options.newShape)]

end ReshapeOptions

/-- The parameters of a node, by the operator that they belong to. -/
inductive BuiltinOptions
  | none
  | add (options : ArithmeticOptions)
  | mul (options : ArithmeticOptions)
  | conv2d (options : Conv2dOptions)
  | depthwiseConv2d (options : DepthwiseConv2dOptions)
  | pool2d (options : Pool2dOptions)
  | concatenation (options : ConcatenationOptions)
  | reducer (options : ReducerOptions)
  | resizeBilinear (options : ResizeBilinearOptions)
  | softmax (options : SoftmaxOptions)
  | transposeConv (options : TransposeConvOptions)
  | reshape (options : ReshapeOptions)
  deriving DecidableEq, Inhabited

namespace BuiltinOptions

def key : BuiltinOptions → String
  | none => "none"
  | add _ => "add"
  | mul _ => "mul"
  | conv2d _ => "conv2d"
  | depthwiseConv2d _ => "depthwise_conv2d"
  | pool2d _ => "pool2d"
  | concatenation _ => "concatenation"
  | reducer _ => "reducer"
  | resizeBilinear _ => "resize_bilinear"
  | softmax _ => "softmax"
  | transposeConv _ => "transpose_conv"
  | reshape _ => "reshape"

def fields : BuiltinOptions → OptionFields
  | none => []
  | add options => options.fields
  | mul options => options.fields
  | conv2d options => options.fields
  | depthwiseConv2d options => options.fields
  | pool2d options => options.fields
  | concatenation options => options.fields
  | reducer options => options.fields
  | resizeBilinear options => options.fields
  | softmax options => options.fields
  | transposeConv options => options.fields
  | reshape options => options.fields

/-- The name of the variant and the name of the record inside. -/
def labels : BuiltinOptions → String × String
  | none => ("None", "")
  | add _ => ("Add", "ArithmeticOptions")
  | mul _ => ("Mul", "ArithmeticOptions")
  | conv2d _ => ("Conv2d", "Conv2dOptions")
  | depthwiseConv2d _ => ("DepthwiseConv2d", "DepthwiseConv2dOptions")
  | pool2d _ => ("Pool2d", "Pool2dOptions")
  | concatenation _ => ("Concatenation", "ConcatenationOptions")
  | reducer _ => ("Reducer", "ReducerOptions")
  | resizeBilinear _ => ("ResizeBilinear", "ResizeBilinearOptions")
  | softmax _ => ("Softmax", "SoftmaxOptions")
  | transposeConv _ => ("TransposeConv", "TransposeConvOptions")
  | reshape _ => ("Reshape", "ReshapeOptions")

def text : BuiltinOptions → String
  | none => "None"
  | options =>
    options.labels.1 ++ "(" ++ recordText options.labels.2 options.fields ++ ")"

end BuiltinOptions

end PartitionLowering
