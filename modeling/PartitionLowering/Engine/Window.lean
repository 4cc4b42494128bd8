import PartitionLowering.Engine.ShapeError

/-!
Extents of sliding windows along one spatial axis, forward (`Window.forward`) and transposed
(`Window.backward`), and the extents of both axes from the attributes of an operation.
-/

set_option autoImplicit false

namespace PartitionLowering.Window

/-- How far the first and the last tap of a window stand apart, both included. -/
def reach (kernel dilation : Nat) : Nat :=
  dilation * (max kernel 1 - 1) + 1

/-- The count of window positions, rounded down without padding and up with it. -/
def forward (op : String) (input kernel stride dilation : Nat) (padMode : PadMode) :
    Except ShapeError Nat :=
  if stride = 0 ∨ dilation = 0 then .error (.zeroStride op)
  else match padMode with
    | .sameUpper => .ok ((input + stride - 1) / stride)
    | .valid =>
      if input < reach kernel dilation then .error (.window op input (reach kernel dilation))
      else .ok ((input - reach kernel dilation) / stride + 1)

/-- The extent that `input` window positions cover. -/
def backward (op : String) (input kernel stride dilation : Nat) (padMode : PadMode) :
    Except ShapeError Nat :=
  if stride = 0 ∨ dilation = 0 then .error (.zeroStride op)
  else if input = 0 ∨ kernel = 0 then .error (.window op input kernel)
  else match padMode with
    | .sameUpper => .ok (input * stride)
    | .valid => .ok (stride * (input - 1) + dilation * (kernel - 1) + 1)

def convolution (op : String) (data kernel : Spatial) (attributes : ConvAttributes) :
    Except ShapeError Spatial := do
  let height ← forward op data.height kernel.height attributes.strides.height
    attributes.dilations.height attributes.padMode
  let width ← forward op data.width kernel.width attributes.strides.width
    attributes.dilations.width attributes.padMode
  return ⟨height, width⟩

def pool (op : String) (data : Spatial) (attributes : PoolAttributes) :
    Except ShapeError Spatial := do
  let height ← forward op data.height attributes.kernel.height attributes.strides.height 1
    attributes.padMode
  let width ← forward op data.width attributes.kernel.width attributes.strides.width 1
    attributes.padMode
  return ⟨height, width⟩

def transposed (op : String) (data kernel : Spatial) (attributes : ConvAttributes) :
    Except ShapeError Spatial := do
  let height ← backward op data.height kernel.height attributes.strides.height
    attributes.dilations.height attributes.padMode
  let width ← backward op data.width kernel.width attributes.strides.width
    attributes.dilations.width attributes.padMode
  return ⟨height, width⟩

end PartitionLowering.Window
