import PartitionLowering.Engine.Inference

/-!
Graphs of the engine.  Nodes are only ever added at the end and take their inputs from the nodes
before them, so the order of the nodes is an order in which they can run.
-/

set_option autoImplicit false

namespace PartitionLowering

structure Graph where
  nodes : List Node := []
  deriving DecidableEq, Inhabited

namespace Graph

def size (graph : Graph) : Nat :=
  graph.nodes.length

def isEmpty (graph : Graph) : Bool :=
  graph.nodes.isEmpty

def node? (graph : Graph) (id : NodeId) : Option Node :=
  graph.nodes[id]?

def contains (graph : Graph) (id : NodeId) : Bool :=
  decide (id < graph.size)

def push (graph : Graph) (op : Op) (inputs : List NodeId) (type : OutputType) : Node × Graph :=
  let node : Node := { id := graph.size, op, inputs, shape := type.1, elementType := type.2 }
  (node, ⟨graph.nodes ++ [node]⟩)

def addParameter (graph : Graph) (elementType : ElementType) (shape : Shape) : Node × Graph :=
  graph.push .parameter [] (shape, elementType)

/-- Adds a constant whose payload has as many bytes as its packed elements take. -/
def addConstant (graph : Graph) (elementType : ElementType) (shape : Shape)
    (payload : List UInt8) : Except ShapeError (Node × Graph) :=
  match (Shape.elementCount? shape).bind elementType.byteLength? with
  | none => .error (.overflow shape)
  | some expected =>
    if payload.length = expected then
      .ok (graph.push (.constant payload) [] (shape, elementType))
    else .error (.constantSize expected payload.length)

def addInt32Constant (graph : Graph) (values : List Int32) : Node × Graph :=
  graph.push (.constant (values.flatMap LittleEndian.encodeInt32)) [] ([values.length], .i32)

def addInt64Constant (graph : Graph) (values : List Int64) : Node × Graph :=
  graph.push (.constant (values.flatMap LittleEndian.encodeInt64)) [] ([values.length], .i64)

/-- The nodes with the given ids, or the first id without a node. -/
def resolve (graph : Graph) (ids : List NodeId) : Except ShapeError (List Node) :=
  ids.mapM fun id => match graph.node? id with
    | some node => .ok node
    | none => .error (.unknownNode id)

def infer (graph : Graph) (op : Op) (inputs : List NodeId) : Except ShapeError OutputType := do
  op.infer (← graph.resolve inputs)

def addOp (graph : Graph) (op : Op) (inputs : List NodeId) : Except ShapeError (Node × Graph) := do
  return graph.push op inputs (← graph.infer op inputs)

def integers? (graph : Graph) (id : NodeId) : Option (List Int) :=
  (graph.node? id).bind Node.integers?

end Graph

end PartitionLowering
