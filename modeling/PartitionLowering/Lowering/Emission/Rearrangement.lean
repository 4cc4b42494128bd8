import PartitionLowering.Lowering.Fusion

/-!
Lowering of operators that join, reshape or resample their data.
-/

set_option autoImplicit false

namespace PartitionLowering.Emission

def allInputs (scope : Scope) (recipe : Recipe) (inputs : List OperandIndex) :
    Except Failure (List NodeId) :=
  (List.range inputs.length).mapM fun position => scope.input recipe inputs position

def concatenation (scope : Scope) (inputs : List OperandIndex) : BuiltinOptions → Emit NodeId
  | .concatenation options =>
    if inputs.length < 2 then Emit.obstructed .fewParts
    else do
      let parts ← allInputs scope .concatenation inputs
      let result ← Emit.op (.concat 1) parts
      Fusion.activate result.id options.activation
  | options => Fusion.unexpected .concatenation options

/-- The pattern in the options, for a node without a pattern operand. -/
def optionPattern : BuiltinOptions → Emit NodeId
  | .reshape options =>
    if options.newShape = [] then Emit.obstructed .noTargetShape
    else do
      let pattern ← Emit.int32Constant options.newShape
      return pattern.id
  | _ => Emit.obstructed .noTargetShape

def reshape (scope : Scope) (inputs : List OperandIndex) (options : BuiltinOptions) :
    Emit NodeId := do
  let input ← scope.input .reshape inputs 0
  let pattern ← match ← scope.optionalInput inputs 1 with
    | some pattern => pure pattern
    | none => optionPattern options
  let result ← Emit.op (.reshape false) [input, pattern]
  return result.id

def coordinateMode (options : ResizeBilinearOptions) : CoordinateMode :=
  if options.alignCorners then .alignCorners
  else if options.halfPixelCenters then .halfPixel
  else .asymmetric

def resizeBilinear (scope : Scope) (inputs : List OperandIndex) : BuiltinOptions → Emit NodeId
  | .resizeBilinear options => do
    let input ← scope.input .resizeBilinear inputs 0
    let sizes ← scope.input .resizeBilinear inputs 1
    let axes ← Emit.int32Constant [2, 3]
    let result ← Emit.op (.interpolate (coordinateMode options)) [input, sizes, axes.id]
    return result.id
  | options => Fusion.unexpected .resizeBilinear options

end PartitionLowering.Emission
