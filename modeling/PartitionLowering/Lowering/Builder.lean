import PartitionLowering.Engine.Model
import PartitionLowering.Lowering.Layout
import PartitionLowering.Lowering.Emission

/-!
Building a model from operands and nodes.  A step that fails leaves bindings, flags, parameters and
results as they were; nodes that it had emitted stay in the graph.
-/

set_option autoImplicit false

namespace PartitionLowering

structure Builder where
  draft : Draft := {}
  registry : Registry := {}
  parameters : List NodeId := []
  results : List NodeId := []
  deriving DecidableEq, Inhabited

abbrev Build := EStateM Failure Builder

namespace Builder

def graph (builder : Builder) : Graph :=
  builder.draft.graph

def emitting {α : Type} (step : Emit α) : Build α := fun builder =>
  match step builder.draft with
  | .ok value draft => .ok value { builder with draft }
  | .error failure draft => .error failure { builder with draft }

def note (event : Event) : Build Unit :=
  emitting (Emit.note event)

/-- Lets a node stand for an operand; the journal tells of a node that it replaces. -/
def bind (index : OperandIndex) (node : NodeId) : Build Unit :=
  modify fun builder =>
    { builder with
      draft.journal := builder.draft.journal ++ builder.registry.replacement index node
      registry := builder.registry.bind index node }

def flag (index : OperandIndex) : Build Unit :=
  modify fun builder => { builder with registry := builder.registry.flag index }

def appendParameter (node : NodeId) : Build Unit :=
  modify fun builder => { builder with parameters := builder.parameters ++ [node] }

/-- The type and the shape of a graph input's parameter. -/
def inputType (tensor : Tensor) (index : OperandIndex) : Except Failure (ElementType × Shape) := do
  if index < 0 then throw (.invalidArgument (.inputIndex index))
  if tensor.dims = [] then throw (.invalidArgument (.inputWithoutDims index))
  if 4 < tensor.rank then throw (.unsupportedRank tensor.rank)
  let elementType ← Layout.elementType tensor.tensorType
  let shape ← Layout.shape tensor.dims
  return (elementType, shape)

/-- Registers a graph input: a parameter of the host's shape, brought into the engine's layout. -/
def registerInput (tensor : Tensor) (index : OperandIndex) : Build Unit := do
  let (elementType, shape) ← inputType tensor index
  let parameter ← emitting (Emit.parameter elementType shape)
  let converted ← emitting (Layout.toEngine tensor.dims parameter.id)
  appendParameter parameter.id
  bind index converted
  flag index
  note (.inputRegistered index parameter.id tensor.dims)

/-- The type, the shape and the payload of a tensor of weights. -/
def constantContent (tensor : Tensor) (index : OperandIndex) :
    Except Failure (ElementType × Shape × List UInt8) := do
  if index < 0 then throw (.invalidArgument (.constantIndex index))
  if tensor.dims = [] then throw (.invalidArgument (.constantWithoutDims index))
  let some data := tensor.data | throw (.invalidArgument (.constantWithoutData index))
  let elementType ← Layout.elementType tensor.tensorType
  let shape ← Layout.shape tensor.dims
  let some expected := tensor.byteSize? | throw (.degenerateShape tensor.dims)
  if data.length ≠ expected then
    throw (.invalidArgument (.payloadSize index data.length expected))
  return (elementType, shape, data)

def registerConstant (tensor : Tensor) (index : OperandIndex) : Build Unit := do
  let (elementType, shape, data) ← constantContent tensor index
  match (← get).graph.addConstant elementType shape data with
  | .error error => throw (.invalidArgument (.constantShape index error))
  | .ok added => do
    let node ← emitting (Emit.keep added)
    bind index node.id
    note (.constantRegistered index node.id tensor.dims)

def target (id : Int32) (node : ScheduledNode) : Except Failure (OperandIndex × Recipe) := do
  if id < 0 then throw (.invalidArgument (.nodeId id))
  let some output := node.outputs.head? | throw (.invalidArgument (.nodeWithoutOutputs id))
  let recipe ← Recipe.ofOpCode node.op
  return (output, recipe)

def lowerNode (id : Int32) (node : ScheduledNode) (tensors : TensorContext) : Build Unit := do
  let (output, recipe) ← target id node
  let scope : Scope := { registry := (← get).registry, tensors }
  let result ← emitting (recipe.emit scope node.inputs node.options)
  bind output result
  note (.nodeLowered id node.op output result)

/-- The node that gives an output to the host: an image goes back into the host's layout. -/
def resultNode (index : OperandIndex) : Build NodeId := do
  let builder ← get
  let node ← builder.registry.node index
  if (builder.graph.node? node).any (·.rank = 4) then emitting (Layout.toHost node)
  else return node

def resultNodes : List OperandIndex → Build (List NodeId)
  | [] => return []
  | index :: rest => do
    let node ← resultNode index
    let nodes ← resultNodes rest
    return node :: nodes

/-- Appends the results for the given operands, all of them or none. -/
def finalize (outputs : List OperandIndex) : Build Unit := do
  if outputs = [] then throw (.invalidArgument .noOutputs)
  let nodes ← resultNodes outputs
  modify fun builder => { builder with results := builder.results ++ nodes }

def model (builder : Builder) : Model where
  graph := builder.graph
  parameters := builder.parameters
  results := builder.results

end Builder

end PartitionLowering
