import PartitionLowering.Lowering.Fusion

/-!
Lowering of operators that work element by element.
-/

set_option autoImplicit false

namespace PartitionLowering.Emission

def unary (recipe : Recipe) (op : Op) (scope : Scope) (inputs : List OperandIndex) :
    Emit NodeId := do
  let input ← scope.input recipe inputs 0
  let result ← Emit.op op [input]
  return result.id

/-- An operation on the first two inputs, which broadcast, and the fused activation. -/
def binary (recipe : Recipe) (op : Op) (scope : Scope) (inputs : List OperandIndex)
    (activation : Activation) : Emit NodeId := do
  let lhs ← scope.input recipe inputs 0
  let rhs ← scope.input recipe inputs 1
  let result ← Emit.op op [lhs, rhs]
  Fusion.activate result.id activation

def add (scope : Scope) (inputs : List OperandIndex) : BuiltinOptions → Emit NodeId
  | .add options => binary .add .add scope inputs options.activation
  | options => Fusion.unexpected .add options

def mul (scope : Scope) (inputs : List OperandIndex) : BuiltinOptions → Emit NodeId
  | .mul options => binary .mul .multiply scope inputs options.activation
  | options => Fusion.unexpected .mul options

end PartitionLowering.Emission
