import PartitionLowering.Host.Partition
import PartitionLowering.Json.Reader
import PartitionLowering.Json.Record
import PartitionLowering.Settings

/-!
Reading tensors, nodes, partitions and settings from JSON.  Options name their operator in the field
`type`, which may stand anywhere in the object or first in an array; what stands beside it is set
aside until the operator is known.
-/

set_option autoImplicit false

namespace PartitionLowering

/-! ## Tensors -/

def Tensor.fieldNames : List String := ["tensor_type", "dims", "allocation", "data"]

def Tensor.ofJson? (value : Json) : Option Tensor := do
  let fields ← value.record? fieldNames
  let tensorType ← fields.required "tensor_type" (Json.choice? TensorType.ofKey? .direct)
  let dims ← fields.required "dims" (Json.list? Json.int32?)
  let allocation ←
    fields.defaulted "allocation" (Json.choice? Allocation.ofKey? .direct) .arenaRw
  let data ← fields.defaulted "data" (Json.option? (Json.list? Json.uint8?)) none
  return { tensorType, dims, allocation, data }

/-- An operand index as a key: the literal is an integer numeral, digit for digit. -/
def Literal.operandIndex? (key : Literal) : Option OperandIndex :=
  match Json.Reader.numeral? key.raw with
  | some (numeral, []) => Json.int32? (.num numeral)
  | _ => none

/-- Of several members with one key the last counts. -/
def TensorContext.ofJson? : Json → Option TensorContext
  | .obj members => do
    let entries ← members.mapM fun (key, value) => do
      return (← key.operandIndex?, ← Tensor.ofJson? value)
    return OperandMap.ofList entries
  | _ => none

/-! ## Options -/

namespace Json.Record

def paddingOr (fields : Record) (name : String) (default : Padding) : Option Padding :=
  fields.defaulted name (choice? Padding.ofKey? .setAside) default

def activationOr (fields : Record) (name : String) (default : Activation) : Option Activation :=
  fields.defaulted name (choice? Activation.ofKey? .setAside) default

def int32Or (fields : Record) (name : String) (default : Int32) : Option Int32 :=
  fields.defaulted name int32? default

def boolOr (fields : Record) (name : String) (default : Bool) : Option Bool :=
  fields.defaulted name bool? default

end Json.Record

def OptionFields.names (fields : OptionFields) : List String :=
  fields.map Prod.fst

def ArithmeticOptions.ofJson? (value : Json) : Option ArithmeticOptions := do
  let default : ArithmeticOptions := {}
  let fields ← value.record? (OptionFields.names default.fields)
  let activation ← fields.activationOr "activation" default.activation
  return { activation }

def Conv2dOptions.ofJson? (value : Json) : Option Conv2dOptions := do
  let default : Conv2dOptions := {}
  let fields ← value.record? (OptionFields.names default.fields)
  let padding ← fields.paddingOr "padding" default.padding
  let strideWidth ← fields.int32Or "stride_width" default.strideWidth
  let strideHeight ← fields.int32Or "stride_height" default.strideHeight
  let dilationWidthFactor ← fields.int32Or "dilation_width_factor" default.dilationWidthFactor
  let dilationHeightFactor ← fields.int32Or "dilation_height_factor" default.dilationHeightFactor
  let activation ← fields.activationOr "activation" default.activation
  return { padding, strideWidth, strideHeight, dilationWidthFactor, dilationHeightFactor, activation }

def DepthwiseConv2dOptions.ofJson? (value : Json) : Option DepthwiseConv2dOptions := do
  let default : DepthwiseConv2dOptions := {}
  let fields ← value.record? (OptionFields.names default.fields)
  let padding ← fields.paddingOr "padding" default.padding
  let strideWidth ← fields.int32Or "stride_width" default.strideWidth
  let strideHeight ← fields.int32Or "stride_height" default.strideHeight
  let depthMultiplier ← fields.int32Or "depth_multiplier" default.depthMultiplier
  let dilationWidthFactor ← fields.int32Or "dilation_width_factor" default.dilationWidthFactor
  let dilationHeightFactor ← fields.int32Or "dilation_height_factor" default.dilationHeightFactor
  let activation ← fields.activationOr "activation" default.activation
  return { padding, strideWidth, strideHeight, depthMultiplier, dilationWidthFactor,
           dilationHeightFactor, activation }

def Pool2dOptions.ofJson? (value : Json) : Option Pool2dOptions := do
  let default : Pool2dOptions := {}
  let fields ← value.record? (OptionFields.names default.fields)
  let padding ← fields.paddingOr "padding" default.padding
  let strideWidth ← fields.int32Or "stride_width" default.strideWidth
  let strideHeight ← fields.int32Or "stride_height" default.strideHeight
  let filterWidth ← fields.int32Or "filter_width" default.filterWidth
  let filterHeight ← fields.int32Or "filter_height" default.filterHeight
  let activation ← fields.activationOr "activation" default.activation
  return { padding, strideWidth, strideHeight, filterWidth, filterHeight, activation }

def ConcatenationOptions.ofJson? (value : Json) : Option ConcatenationOptions := do
  let default : ConcatenationOptions := {}
  let fields ← value.record? (OptionFields.names default.fields)
  let axis ← fields.int32Or "axis" default.axis
  let activation ← fields.activationOr "activation" default.activation
  return { axis, activation }

def ReducerOptions.ofJson? (value : Json) : Option ReducerOptions := do
  let default : ReducerOptions := {}
  let fields ← value.record? (OptionFields.names default.fields)
  let keepDims ← fields.boolOr "keep_dims" default.keepDims
  return { keepDims }

def ResizeBilinearOptions.ofJson? (value : Json) : Option ResizeBilinearOptions := do
  let default : ResizeBilinearOptions := {}
  let fields ← value.record? (OptionFields.names default.fields)
  let alignCorners ← fields.boolOr "align_corners" default.alignCorners
  let halfPixelCenters ← fields.boolOr "half_pixel_centers" default.halfPixelCenters
  return { alignCorners, halfPixelCenters }

def SoftmaxOptions.ofJson? (value : Json) : Option SoftmaxOptions := do
  let default : SoftmaxOptions := {}
  let fields ← value.record? (OptionFields.names default.fields)
  let beta ← fields.defaulted "beta" Json.float32? default.beta
  return { beta }

def TransposeConvOptions.ofJson? (value : Json) : Option TransposeConvOptions := do
  let default : TransposeConvOptions := {}
  let fields ← value.record? (OptionFields.names default.fields)
  let padding ← fields.paddingOr "padding" default.padding
  let strideWidth ← fields.int32Or "stride_width" default.strideWidth
  let strideHeight ← fields.int32Or "stride_height" default.strideHeight
  let activation ← fields.activationOr "activation" default.activation
  return { padding, strideWidth, strideHeight, activation }

def ReshapeOptions.ofJson? (value : Json) : Option ReshapeOptions := do
  let default : ReshapeOptions := {}
  let fields ← value.record? (OptionFields.names default.fields)
  let newShape ← fields.defaulted "new_shape" (Json.list? Json.int32?) default.newShape
  return { newShape }

namespace BuiltinOptions

/-- Options without parameters skip the members of an object, but an array may hold no item. -/
def isNone : Json → Bool
  | .obj _ => true
  | .arr [] => true
  | _ => false

def ofContent? (key : String) (content : Json) : Option BuiltinOptions :=
  match key with
  | "none" => if isNone content then some .none else failure
  | "add" => .add <$> ArithmeticOptions.ofJson? content
  | "mul" => .mul <$> ArithmeticOptions.ofJson? content
  | "conv2d" => .conv2d <$> Conv2dOptions.ofJson? content
  | "depthwise_conv2d" => .depthwiseConv2d <$> DepthwiseConv2dOptions.ofJson? content
  | "pool2d" => .pool2d <$> Pool2dOptions.ofJson? content
  | "concatenation" => .concatenation <$> ConcatenationOptions.ofJson? content
  | "reducer" => .reducer <$> ReducerOptions.ofJson? content
  | "resize_bilinear" => .resizeBilinear <$> ResizeBilinearOptions.ofJson? content
  | "softmax" => .softmax <$> SoftmaxOptions.ofJson? content
  | "transpose_conv" => .transposeConv <$> TransposeConvOptions.ofJson? content
  | "reshape" => .reshape <$> ReshapeOptions.ofJson? content
  | _ => failure

def ofMembers? (level : Nat) (members : List (Literal × Json)) : Option BuiltinOptions :=
  let (tags, others) := members.partition (·.1.text? = some "type")
  match tags with
  | [(_, tag)] => do
    let key ← tag.string?
    if others.all fun member => member.1.text?.isSome && member.2.canSetAside (level + 1) then
      ofContent? key (.obj others)
    else failure
  | _ => failure

def ofItems? (level : Nat) : List Json → Option BuiltinOptions
  | [] => failure
  | tag :: others => do
    let key ← tag.string?
    if others.all (Json.canSetAside (level + 1)) then ofContent? key (.arr others) else failure

def ofJson? (level : Nat) : Json → Option BuiltinOptions
  | .obj members => ofMembers? level members
  | .arr items => ofItems? level items
  | _ => failure

end BuiltinOptions

/-! ## Nodes and partitions -/

def OpCode.ofJson? : Json → Option OpCode
  | .obj [(key, value)] => do
    match ← key.text? with
    | "builtin" => .builtin <$> Json.choice? BuiltinOperator.ofKey? .direct value
    | "custom" => .custom <$> value.string?
    | _ => failure
  | _ => failure

def ScheduledNode.fieldNames : List String := ["id", "op", "inputs", "outputs", "options"]

def ScheduledNode.ofJson? (level : Nat) (value : Json) : Option ScheduledNode := do
  let fields ← value.record? fieldNames
  let id ← fields.required "id" Json.int32?
  let op ← fields.required "op" OpCode.ofJson?
  let inputs ← fields.required "inputs" (Json.list? Json.int32?)
  let outputs ← fields.required "outputs" (Json.list? Json.int32?)
  let options ← fields.defaulted "options" (BuiltinOptions.ofJson? (level + 1)) .none
  return { id, op, inputs, outputs, options }

def Partition.fieldNames : List String := ["inputs", "outputs", "nodes"]

def Partition.ofJson? (level : Nat) (value : Json) : Option Partition := do
  let fields ← value.record? fieldNames
  let inputs ← fields.required "inputs" (Json.list? Json.int32?)
  let outputs ← fields.required "outputs" (Json.list? Json.int32?)
  let nodes ← fields.required "nodes" (Json.list? (ScheduledNode.ofJson? (level + 2)))
  return { inputs, outputs, nodes }

def Fixture.fieldNames : List String := ["tensors", "subgraph"]

def Fixture.ofJson? (value : Json) : Option Fixture := do
  let fields ← value.record? fieldNames
  let tensors ← fields.required "tensors" TensorContext.ofJson?
  let partition ← fields.required "subgraph" (Partition.ofJson? 1)
  return { tensors, partition }

def Fixture.read? (text : String) : Option Fixture :=
  (Json.read? text).bind Fixture.ofJson?

/-! ## Settings -/

def Settings.fieldNames : List String := ["debug_level", "device", "plugins_path"]

def Settings.ofJson? (value : Json) : Option Settings := do
  let default : Settings := {}
  let fields ← value.record? fieldNames
  let debugLevel ← fields.defaulted "debug_level" Json.uint8? default.debugLevel
  let device ← fields.defaulted "device" Json.string? default.device
  let pluginsPath ← fields.defaulted "plugins_path" Json.string? default.pluginsPath
  return { debugLevel, device, pluginsPath }

def Settings.read? (text : String) : Option Settings :=
  (Json.read? text).bind Settings.ofJson?

end PartitionLowering
