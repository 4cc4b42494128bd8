import PartitionLowering.Engine.Op

/-!
Why an operation has no shape on its inputs, or a constant no room for its payload.
-/

set_option autoImplicit false

namespace PartitionLowering

/-- Extents, outermost first. -/
abbrev Shape := List Nat

/-- The position of a node in its graph. -/
abbrev NodeId := Nat

/-- An attribute or a constant input that an operation does not take. -/
inductive Misfit
  | sourceNode
  | outputExtents (sizes : List Int)
  | unlikeParts (part first : Shape) (axis : Nat)
  | emptyRange (min max : Float)
  | sizesPerAxis (sizes axes : Nat)
  | targetSize (size : Int)
  deriving DecidableEq

namespace Misfit

def message : Misfit → String
  | sourceNode => "source nodes are created directly"
  | outputExtents sizes => "output shape " ++ intListing sizes ++ " is not two positive dims"
  | unlikeParts part first axis =>
    natListing part ++ " does not match " ++ natListing first ++ s!" outside axis {axis}"
  | emptyRange min max =>
    "min " ++ Style.plain.text64 min ++ " exceeds max " ++ Style.plain.text64 max
  | sizesPerAxis sizes axes => s!"{sizes} sizes for {axes} axes"
  | targetSize size => s!"target size {size} must be positive"

end Misfit

inductive ShapeError
  | unknownNode (id : NodeId)
  | arity (op : String) (expected got : Nat)
  | notConstant (op : String) (input : Nat)
  | rank (op : String) (expected got : Nat)
  | broadcast (lhs rhs : Shape)
  | elementType (lhs rhs : ElementType)
  | channelMismatch (op : String) (data filter : Nat)
  | permutation (order : List Int) (rank : Nat)
  | reshape (source : Shape) (pattern : List Int)
  | axis (axis : Int) (rank : Nat)
  | window (op : String) (input kernel : Nat)
  | zeroStride (op : String)
  | constantSize (expected got : Nat)
  | overflow (shape : Shape)
  | invalid (op : String) (misfit : Misfit)
  deriving DecidableEq

namespace ShapeError

def message : ShapeError → String
  | unknownNode id => s!"node %{id} does not exist"
  | arity op expected got => s!"{op}: expected {expected} inputs, got {got}"
  | notConstant op input => s!"{op}: input {input} must be an integer constant"
  | rank op expected got => s!"{op}: expected rank {expected}, got {got}"
  | broadcast lhs rhs => "cannot broadcast " ++ natListing lhs ++ " with " ++ natListing rhs
  | elementType lhs rhs => "element type mismatch: " ++ lhs.name ++ " vs " ++ rhs.name
  | channelMismatch op data filter =>
    s!"{op}: data has {data} channels but filter expects {filter}"
  | permutation order extents =>
    "invalid permutation " ++ intListing order ++ s!" for rank {extents}"
  | reshape source pattern =>
    "cannot reshape " ++ natListing source ++ " into pattern " ++ intListing pattern
  | axis position extents => s!"axis {position} out of range for rank {extents}"
  | window op input kernel =>
    s!"{op}: window does not fit (input {input}, effective kernel {kernel})"
  | zeroStride op => s!"{op}: strides and dilations must be non-zero"
  | constantSize expected got => s!"constant payload is {got} bytes, shape needs {expected}"
  | overflow shape => "element count of " ++ natListing shape ++ " overflows"
  | invalid op misfit => op ++ ": " ++ misfit.message

end ShapeError

end PartitionLowering
