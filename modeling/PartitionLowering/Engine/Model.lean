import PartitionLowering.Engine.Graph

/-!
Models: a graph with the nodes that take the inputs of a run and those that give its results.
`Model.dump` writes one line for each node and two for the bindings.
-/

set_option autoImplicit false

namespace PartitionLowering

structure Model where
  graph : Graph
  parameters : List NodeId
  results : List NodeId
  deriving DecidableEq, Inhabited

def idListing (ids : List NodeId) : String :=
  commaSeparated (ids.map fun id => "%" ++ toString id)

namespace Node

/-- The attributes between brackets; nothing where there are none. -/
def attributeText (node : Node) : String :=
  if node.op.summary.isEmpty then "" else "[" ++ node.op.summary ++ "]"

def line (node : Node) : String :=
  "%" ++ toString node.id ++ " = " ++ node.op.name ++ node.attributeText ++ "(" ++
    idListing node.inputs ++ ") -> " ++ node.elementType.name ++ natListing node.shape

end Node

namespace Model

def parameter? (model : Model) (position : Nat) : Option Node :=
  model.parameters[position]?.bind model.graph.node?

def result? (model : Model) (position : Nat) : Option Node :=
  model.results[position]?.bind model.graph.node?

def lines (model : Model) : List String :=
  model.graph.nodes.map Node.line ++
    ["parameters: " ++ idListing model.parameters, "results: " ++ idListing model.results]

def dump (model : Model) : String :=
  String.join (model.lines.map (· ++ "\n"))

end Model

end PartitionLowering
