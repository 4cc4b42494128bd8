import PartitionLowering.Engine.Node
import PartitionLowering.Engine.Shape
import PartitionLowering.Engine.Window

/-!
Shape inference.  `Op.infer` gives the shape and the element type of an operation's output from its
input nodes, or the first reason why there is none.  It reads nothing of a node but its shape, its
element type and, where an input has to be an integer constant, its payload.
-/

set_option autoImplicit false

namespace PartitionLowering

abbrev OutputType := Shape × ElementType

namespace Inference

/-! ## Inputs -/

def oneInput (op : String) : List Node → Except ShapeError Node
  | [data] => .ok data
  | inputs => .error (.arity op 1 inputs.length)

def twoInputs (op : String) : List Node → Except ShapeError (Node × Node)
  | [first, second] => .ok (first, second)
  | inputs => .error (.arity op 2 inputs.length)

def threeInputs (op : String) : List Node → Except ShapeError (Node × Node × Node)
  | [first, second, third] => .ok (first, second, third)
  | inputs => .error (.arity op 3 inputs.length)

def integersAt (op : String) (position : Nat) (node : Node) : Except ShapeError (List Int) :=
  match node.integers? with
  | some values => .ok values
  | none => .error (.notConstant op position)

/-- Two outer extents and two spatial ones. -/
structure Quad where
  first : Nat
  second : Nat
  spatial : Spatial

def rankFour (op : String) : Shape → Except ShapeError Quad
  | [first, second, height, width] => .ok ⟨first, second, ⟨height, width⟩⟩
  | shape => .error (.rank op 4 shape.length)

/-- A count of groups in front of two outer extents and two spatial ones. -/
def rankFive (op : String) : Shape → Except ShapeError (Nat × Quad)
  | [groups, first, second, height, width] => .ok (groups, ⟨first, second, ⟨height, width⟩⟩)
  | shape => .error (.rank op 5 shape.length)

/-! ## Operations -/

def transpose (op : String) (inputs : List Node) : Except ShapeError OutputType := do
  let (data, order) ← twoInputs op inputs
  let order ← integersAt op 1 order
  let shape ← Shape.permute data.shape order
  return (shape, data.elementType)

def reshape (op : String) (specialZero : Bool) (inputs : List Node) :
    Except ShapeError OutputType := do
  let (data, pattern) ← twoInputs op inputs
  let pattern ← integersAt op 1 pattern
  let shape ← Shape.reshape data.shape pattern specialZero
  return (shape, data.elementType)

def arithmetic (op : String) (inputs : List Node) : Except ShapeError OutputType := do
  let (lhs, rhs) ← twoInputs op inputs
  if lhs.elementType ≠ rhs.elementType then
    throw (.elementType lhs.elementType rhs.elementType)
  let shape ← Shape.broadcast lhs.shape rhs.shape
  return (shape, lhs.elementType)

def convolution (op : String) (attributes : ConvAttributes) (inputs : List Node) :
    Except ShapeError OutputType := do
  let (data, filter) ← twoInputs op inputs
  let image ← rankFour op data.shape
  let kernel ← rankFour op filter.shape
  if image.second ≠ kernel.second then
    throw (.channelMismatch op image.second kernel.second)
  let spatial ← Window.convolution op image.spatial kernel.spatial attributes
  return ([image.first, kernel.first, spatial.height, spatial.width], data.elementType)

def groupConvolution (op : String) (attributes : ConvAttributes) (inputs : List Node) :
    Except ShapeError OutputType := do
  let (data, filter) ← twoInputs op inputs
  let image ← rankFour op data.shape
  let (groups, kernel) ← rankFive op filter.shape
  if groups * kernel.second ≠ image.second then
    throw (.channelMismatch op image.second (groups * kernel.second))
  let spatial ← Window.convolution op image.spatial kernel.spatial attributes
  return ([image.first, groups * kernel.first, spatial.height, spatial.width], data.elementType)

def outputExtents (op : String) (sizes : List Int) : Except ShapeError Spatial :=
  match sizes with
  | [height, width] =>
    if 0 < height ∧ 0 < width then .ok ⟨height.toNat, width.toNat⟩
    else .error (.invalid op (.outputExtents sizes))
  | _ => .error (.invalid op (.outputExtents sizes))

/-- The data, the filter and the sizes where they are given. -/
def transposedInputs (op : String) : List Node → Except ShapeError (Node × Node × Option Node)
  | [data, filter] => .ok (data, filter, none)
  | [data, filter, sizes] => .ok (data, filter, some sizes)
  | inputs => .error (.arity op 3 inputs.length)

def transposedConvolution (op : String) (attributes : ConvAttributes) (inputs : List Node) :
    Except ShapeError OutputType := do
  let (data, filter, sizes) ← transposedInputs op inputs
  let image ← rankFour op data.shape
  let kernel ← rankFour op filter.shape
  if image.second ≠ kernel.first then
    throw (.channelMismatch op image.second kernel.first)
  let spatial ← match sizes with
    | some sizes => do outputExtents op (← integersAt op 2 sizes)
    | none => Window.transposed op image.spatial kernel.spatial attributes
  return ([image.first, kernel.second, spatial.height, spatial.width], data.elementType)

def pool (op : String) (attributes : PoolAttributes) (inputs : List Node) :
    Except ShapeError OutputType := do
  let data ← oneInput op inputs
  let image ← rankFour op data.shape
  let spatial ← Window.pool op image.spatial attributes
  return ([image.first, image.second, spatial.height, spatial.width], data.elementType)

/-- Lengthens `shape` along `axis` by each part in turn; a part agrees with the first one in its
element type and outside the axis. -/
def joinParts (op : String) (axis : Nat) (first : Node) :
    List Node → Shape → Except ShapeError Shape
  | [], shape => .ok shape
  | part :: rest, shape =>
    if part.elementType ≠ first.elementType then
      .error (.elementType first.elementType part.elementType)
    else if part.shape.set axis 0 ≠ first.shape.set axis 0 then
      .error (.invalid op (.unlikeParts part.shape first.shape axis))
    else joinParts op axis first rest (shape.modify axis (· + part.shape.getD axis 0))

def concat (op : String) (axis : Int) : List Node → Except ShapeError OutputType
  | [] => .error (.arity op 1 0)
  | first :: rest => do
    let axis ← Shape.resolveAxis axis first.rank
    let shape ← joinParts op axis first rest first.shape
    return (shape, first.elementType)

def elementwise (op : String) (inputs : List Node) : Except ShapeError OutputType := do
  let data ← oneInput op inputs
  return (data.shape, data.elementType)

def clamp (op : String) (min max : Float) (inputs : List Node) : Except ShapeError OutputType := do
  let data ← oneInput op inputs
  if max < min then
    throw (.invalid op (.emptyRange min max))
  return (data.shape, data.elementType)

/-- An axis out of range is reported as a signed 64-bit number. -/
def softmax (op : String) (axis : Nat) (inputs : List Node) : Except ShapeError OutputType := do
  let data ← oneInput op inputs
  if data.rank ≤ axis then
    throw (.axis (Int64.ofNat axis).toInt data.rank)
  return (data.shape, data.elementType)

/-- The shape after a reduction over `axes`: a reduced axis keeps one element or goes. -/
def reduceAxes (shape : Shape) (axes : List Nat) (keepDims : Bool) : Shape :=
  shape.zipIdx.filterMap fun (extent, axis) =>
    if axis ∈ axes then (if keepDims then some 1 else none) else some extent

def reduceMean (op : String) (keepDims : Bool) (inputs : List Node) :
    Except ShapeError OutputType := do
  let (data, axes) ← twoInputs op inputs
  let axes ← integersAt op 1 axes
  let axes ← axes.mapM fun axis => Shape.resolveAxis axis data.rank
  return (reduceAxes data.shape axes keepDims, data.elementType)

/-- Gives each named axis its target size, in order. -/
def resizeAxes (op : String) : List (Int × Int) → Shape → Except ShapeError Shape
  | [], shape => .ok shape
  | (size, axis) :: rest, shape =>
    if size ≤ 0 then .error (.invalid op (.targetSize size))
    else do
      let axis ← Shape.resolveAxis axis shape.length
      resizeAxes op rest (shape.set axis size.toNat)

def interpolate (op : String) (inputs : List Node) : Except ShapeError OutputType := do
  let (data, sizes, axes) ← threeInputs op inputs
  let sizes ← integersAt op 1 sizes
  let axes ← integersAt op 2 axes
  if sizes.length ≠ axes.length then
    throw (.invalid op (.sizesPerAxis sizes.length axes.length))
  let shape ← resizeAxes op (sizes.zip axes) data.shape
  return (shape, data.elementType)

def convert (op : String) (destination : ElementType) (inputs : List Node) :
    Except ShapeError OutputType := do
  let data ← oneInput op inputs
  return (data.shape, destination)

end Inference

/-- The output of an operation on input nodes.  Parameters and constants are not inferred. -/
def Op.infer (op : Op) (inputs : List Node) : Except ShapeError OutputType :=
  match op with
  | .parameter => .error (.invalid op.name .sourceNode)
  | .constant _ => .error (.invalid op.name .sourceNode)
  | .transpose => Inference.transpose op.name inputs
  | .reshape specialZero => Inference.reshape op.name specialZero inputs
  | .add => Inference.arithmetic op.name inputs
  | .multiply => Inference.arithmetic op.name inputs
  | .convolution attributes => Inference.convolution op.name attributes inputs
  | .groupConvolution attributes => Inference.groupConvolution op.name attributes inputs
  | .convolutionBackpropData attributes =>
    Inference.transposedConvolution op.name attributes inputs
  | .maxPool attributes => Inference.pool op.name attributes inputs
  | .avgPool attributes _ => Inference.pool op.name attributes inputs
  | .concat axis => Inference.concat op.name axis inputs
  | .relu => Inference.elementwise op.name inputs
  | .clamp min max => Inference.clamp op.name min max inputs
  | .tanh => Inference.elementwise op.name inputs
  | .sigmoid => Inference.elementwise op.name inputs
  | .hSwish => Inference.elementwise op.name inputs
  | .softmax axis => Inference.softmax op.name axis inputs
  | .reduceMean keepDims => Inference.reduceMean op.name keepDims inputs
  | .interpolate _ => Inference.interpolate op.name inputs
  | .convert destination => Inference.convert op.name destination inputs

end PartitionLowering
