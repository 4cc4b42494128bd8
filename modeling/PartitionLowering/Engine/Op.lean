import PartitionLowering.Text.Listing
import PartitionLowering.Decimal.Style
import PartitionLowering.Engine.ElementType

/-!
Operations of the engine.  Data is laid out as batch, channels, height, width; a constant holds its
payload as bytes.
-/

set_option autoImplicit false

namespace PartitionLowering

/-- How a windowed operation pads its data; pads are never given one by one. -/
inductive PadMode
  | sameUpper
  | valid
  deriving DecidableEq, Inhabited

namespace PadMode

def label : PadMode → String
  | sameUpper => "SameUpper"
  | valid => "Valid"

end PadMode

/-- One number for each of the two spatial axes. -/
structure Spatial where
  height : Nat
  width : Nat
  deriving DecidableEq, Inhabited

namespace Spatial

def toList (extents : Spatial) : List Nat := [extents.height, extents.width]

def text (extents : Spatial) : String := natListing extents.toList

end Spatial

structure ConvAttributes where
  strides : Spatial
  dilations : Spatial
  padMode : PadMode
  deriving DecidableEq, Inhabited

structure PoolAttributes where
  strides : Spatial
  kernel : Spatial
  padMode : PadMode
  deriving DecidableEq, Inhabited

/-- Where a resized grid puts its sample points. -/
inductive CoordinateMode
  | halfPixel
  | asymmetric
  | alignCorners
  deriving DecidableEq, Inhabited

namespace CoordinateMode

def label : CoordinateMode → String
  | halfPixel => "HalfPixel"
  | asymmetric => "Asymmetric"
  | alignCorners => "AlignCorners"

end CoordinateMode

/-- The operation of a node.  A parameter is bound when the engine runs.  Parameters and constants have no
inputs, a `concat` has one part or more; the comments name the inputs of the others that take more than
their data. -/
inductive Op
  | parameter
  | constant (payload : List UInt8)
  -- Data and order.
  | transpose
  -- Data and pattern.
  | reshape (specialZero : Bool)
  -- Two operands that broadcast.
  | add
  | multiply
  -- Data `[N, C, H, W]` and filter `[O, C, KH, KW]`.
  | convolution (attributes : ConvAttributes)
  -- Data `[N, C, H, W]` and filter `[G, O/G, C/G, KH, KW]`.
  | groupConvolution (attributes : ConvAttributes)
  -- Data `[N, C, H, W]`, filter `[C, O, KH, KW]`, and the spatial output extents where given.
  | convolutionBackpropData (attributes : ConvAttributes)
  | maxPool (attributes : PoolAttributes)
  | avgPool (attributes : PoolAttributes) (excludePad : Bool)
  | concat (axis : Int)
  | relu
  | clamp (min max : Float)
  | tanh
  | sigmoid
  | hSwish
  | softmax (axis : Nat)
  -- Data and axes.
  | reduceMean (keepDims : Bool)
  -- Data, sizes and axes.
  | interpolate (mode : CoordinateMode)
  | convert (destination : ElementType)
  deriving DecidableEq, Inhabited

namespace Op

def name : Op → String
  | parameter => "Parameter"
  | constant _ => "Constant"
  | transpose => "Transpose"
  | reshape _ => "Reshape"
  | add => "Add"
  | multiply => "Multiply"
  | convolution _ => "Convolution"
  | groupConvolution _ => "GroupConvolution"
  | convolutionBackpropData _ => "ConvolutionBackpropData"
  | maxPool _ => "MaxPool"
  | avgPool _ _ => "AvgPool"
  | concat _ => "Concat"
  | relu => "Relu"
  | clamp _ _ => "Clamp"
  | tanh => "Tanh"
  | sigmoid => "Sigmoid"
  | hSwish => "HSwish"
  | softmax _ => "Softmax"
  | reduceMean _ => "ReduceMean"
  | interpolate _ => "Interpolate"
  | convert _ => "Convert"

def convSummary (attributes : ConvAttributes) : String :=
  "strides=" ++ attributes.strides.text ++ " dilations=" ++ attributes.dilations.text ++
    " auto_pad=" ++ attributes.padMode.label

def poolSummary (attributes : PoolAttributes) : String :=
  "kernel=" ++ attributes.kernel.text ++ " strides=" ++ attributes.strides.text ++
    " auto_pad=" ++ attributes.padMode.label

/-- The attributes in short, for dumps; empty where there are none. -/
def summary : Op → String
  | constant payload => toString payload.length ++ " bytes"
  | reshape specialZero => "special_zero=" ++ toString specialZero
  | convolution attributes => convSummary attributes
  | groupConvolution attributes => convSummary attributes
  | convolutionBackpropData attributes => convSummary attributes
  | maxPool attributes => poolSummary attributes
  | avgPool attributes _ => poolSummary attributes
  | concat axis => "axis=" ++ toString axis
  | clamp min max => "min=" ++ Style.plain.text64 min ++ " max=" ++ Style.plain.text64 max
  | softmax axis => "axis=" ++ toString axis
  | reduceMean keepDims => "keep_dims=" ++ toString keepDims
  | interpolate mode => "coord=" ++ mode.label
  | convert destination => "to=" ++ destination.name
  | parameter | transpose | add | multiply | relu | tanh | sigmoid | hSwish => ""

end Op

end PartitionLowering
