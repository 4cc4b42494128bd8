import PartitionLowering.Bytes.LittleEndian
import PartitionLowering.Engine.ShapeError

/-!
Nodes of a graph, and the integers that a constant node holds.
-/

set_option autoImplicit false

namespace PartitionLowering

/-- A node with the shape and the element type of its output. -/
structure Node where
  id : NodeId
  op : Op
  inputs : List NodeId
  shape : Shape
  elementType : ElementType
  deriving DecidableEq, Inhabited

/-- The width in bytes of an integer type and how its bytes are read.  Unsigned integers of 64 bits
are read with a sign, like all others of that width. -/
def ElementType.integerCode? : ElementType → Option (Nat × (List UInt8 → Int))
  | .i8 => some (1, LittleEndian.signed)
  | .u8 => some (1, fun bytes => LittleEndian.unsigned bytes)
  | .i16 => some (2, LittleEndian.signed)
  | .u16 => some (2, fun bytes => LittleEndian.unsigned bytes)
  | .i32 => some (4, LittleEndian.signed)
  | .u32 => some (4, fun bytes => LittleEndian.unsigned bytes)
  | .i64 => some (8, LittleEndian.signed)
  | .u64 => some (8, LittleEndian.signed)
  | _ => none

namespace Node

def rank (node : Node) : Nat :=
  node.shape.length

/-- The integers of a constant node of an integer type of at least eight bits. -/
def integers? (node : Node) : Option (List Int) :=
  match node.op with
  | .constant payload =>
    node.elementType.integerCode?.map fun code =>
      (LittleEndian.groups code.1 payload).map code.2
  | _ => none

end Node

end PartitionLowering
