import PartitionLowering.Lowering.Fusion

/-!
Lowering of operators that work along axes.
-/

set_option autoImplicit false

namespace PartitionLowering.Emission

/-- The engine's number for a host axis of an image. -/
def engineAxis (axis : Int32) : Int32 :=
  if axis = 1 then 2 else if axis = 2 then 3 else if axis = 3 then 1 else axis

/-- The axes that the second operand of a mean holds; there has to be one. -/
def meanAxes (scope : Scope) (inputs : List OperandIndex) : Except Failure (List Int32) := do
  match inputs[1]? with
  | none => throw (.obstructed .missingAxes)
  | some index =>
    match (← Scope.tensor scope.tensors index).int32Values? with
    | none => throw (.obstructed .axesWithoutData)
    | some [] => throw (.obstructed .axesWithoutData)
    | some axes => return axes

def mean (scope : Scope) (inputs : List OperandIndex) : BuiltinOptions → Emit NodeId
  | .reducer options => do
    let input ← scope.input .mean inputs 0
    let axes ← meanAxes scope inputs
    let axes := axes.map engineAxis
    Emit.note (.axesRenumbered axes)
    let axes ← Emit.int32Constant axes
    let result ← Emit.op (.reduceMean options.keepDims) [input, axes.id]
    return result.id
  | options => Fusion.unexpected .mean options

end PartitionLowering.Emission
