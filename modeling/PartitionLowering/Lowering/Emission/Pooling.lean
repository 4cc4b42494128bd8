import PartitionLowering.Lowering.Fusion

/-!
Lowering of pools.  A maximum pool takes every padding other than `same` for no padding; an average
pool asks for a known one and leaves padded positions out of its averages.
-/

set_option autoImplicit false

namespace PartitionLowering.Emission

def poolAttributes (recipe : Recipe) (options : Pool2dOptions) (padMode : PadMode) :
    Except Failure PoolAttributes := do
  let strides ← Fusion.strides recipe options.strideHeight options.strideWidth
  let kernel ← Fusion.kernel recipe options.filterHeight options.filterWidth
  return ⟨strides, kernel, padMode⟩

def averagePool2d (scope : Scope) (inputs : List OperandIndex) : BuiltinOptions → Emit NodeId
  | .pool2d options => do
    let input ← scope.input .averagePool2d inputs 0
    let padMode ← Fusion.padMode options.padding
    let attributes ← poolAttributes .averagePool2d options padMode
    let result ← Emit.op (.avgPool attributes true) [input]
    Fusion.activate result.id options.activation
  | options => Fusion.unexpected .averagePool2d options

def maxPool2d (scope : Scope) (inputs : List OperandIndex) : BuiltinOptions → Emit NodeId
  | .pool2d options => do
    let input ← scope.input .maxPool2d inputs 0
    let padMode := if options.padding = .same then PadMode.sameUpper else .valid
    let attributes ← poolAttributes .maxPool2d options padMode
    let result ← Emit.op (.maxPool attributes) [input]
    Fusion.activate result.id options.activation
  | options => Fusion.unexpected .maxPool2d options

end PartitionLowering.Emission
