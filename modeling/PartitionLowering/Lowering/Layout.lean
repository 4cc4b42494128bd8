import PartitionLowering.Lowering.Draft

/-!
From the host's layout to the engine's and back.  The host keeps an image as batch, height, width,
channels; the engine as batch, channels, height, width.  A tensor of fewer than four dims is an image
with ones in front.
-/

set_option autoImplicit false

namespace PartitionLowering.Layout

/-- The order that brings a host image into the engine's layout. -/
def toEngineOrder : List Int64 := [0, 3, 1, 2]

/-- The order that brings an engine image into the host's layout. -/
def toHostOrder : List Int64 := [0, 2, 3, 1]

def elementType? : TensorType → Option ElementType
  | .float32 => some .f32
  | .int32 => some .i32
  | .uint8 => some .u8
  | .int64 => some .i64
  | .bool => some .boolean
  | .int16 => some .i16
  | .int8 => some .i8
  | .float16 => some .f16
  | .float64 => some .f64
  | .uint64 => some .u64
  | .uint32 => some .u32
  | .uint16 => some .u16
  | .int4 => some .i4
  | .noType | .string | .complex64 | .complex128 | .resource | .variant => none

def elementType (type : TensorType) : Except Failure ElementType :=
  match elementType? type with
  | some elementType => .ok elementType
  | none => .error (.unsupportedType type)

/-- Host dims as a shape; each of them has to be positive. -/
def shape (dims : List Int32) : Except Failure Shape :=
  if dims.all fun dim => 0 < dim then .ok (dims.map fun dim => dim.toInt.toNat)
  else .error (.degenerateShape dims)

/-- The dims with ones in front, up to four. -/
def imageDims (dims : List Int32) : List Int32 :=
  List.replicate (4 - dims.length) 1 ++ dims

def toEngine (dims : List Int32) (node : NodeId) : Emit NodeId := do
  if (← get).graph.contains node then
    if dims = [] then throw (.invalidArgument .scalarLayout)
    else if 4 < dims.length then throw (.unsupportedRank dims.length)
    else do
      let image ←
        if dims.length < 4 then do
          let pattern ← Emit.int32Constant (imageDims dims)
          let image ← Emit.op (.reshape false) [node, pattern.id]
          pure image.id
        else pure node
      let order ← Emit.int32Constant (toEngineOrder.map Int64.toInt32)
      let result ← Emit.op .transpose [image, order.id]
      return result.id
  else throw (.invalidArgument (.unknownNode node))

def toHost (node : NodeId) : Emit NodeId := do
  match (← get).graph.node? node with
  | none => throw (.invalidArgument (.unknownNode node))
  | some image =>
    if image.rank = 4 then do
      let result ← Emit.transpose node toHostOrder
      return result.id
    else throw (.unsupportedRank image.rank)

end PartitionLowering.Layout
