import PartitionLowering.Proofs.Engine.Reading

/-!
What a graph has grown by.  `Graph.Grows` tells of the nodes that a graph has more than an earlier one:
which convolutions are among them, each with the shape of its filter, and that they take their inputs
from the graph.  Growth adds up (`Grows.trans`), and a node on inputs that are there is growth by itself
(`grows_push`).  `Graph.Brings` tells which of the new nodes are of one kind, in the same way.
-/

set_option autoImplicit false

namespace PartitionLowering

structure FilterUse where
  op : Op
  filter : Option Shape
  deriving DecidableEq

namespace Op

def isConvolution : Op → Bool
  | .convolution _ | .groupConvolution _ | .convolutionBackpropData _ => true
  | _ => false

/-- The convolution that an operation on the given nodes is, if it is one. -/
def filterUses (op : Op) (nodes : List Node) : List FilterUse :=
  if op.isConvolution then [⟨op, nodes[1]?.map Node.shape⟩] else []

end Op

namespace Graph

def filterUse? (graph : Graph) (node : Node) : Option FilterUse :=
  if node.op.isConvolution then
    some ⟨node.op, (node.inputs[1]?.bind graph.node?).map Node.shape⟩
  else none

def filterUsesFrom (graph : Graph) (start : Nat) : List FilterUse :=
  (graph.nodes.drop start).filterMap graph.filterUse?

structure Grows (before after : Graph) (uses : List FilterUse) : Prop where
  longer : before.Extends after
  closed : ∀ node ∈ after.nodes.drop before.size, ∀ input ∈ node.inputs, input < after.size
  filterUses : after.filterUsesFrom before.size = uses

theorem Extends.drop_eq {first second third : Graph} (early : first.Extends second)
    (late : second.Extends third) :
    third.nodes.drop first.size =
      second.nodes.drop first.size ++ third.nodes.drop second.size := by
  obtain ⟨middle, whole⟩ := early
  obtain ⟨last, whole'⟩ := late
  simp [size, ← whole', ← whole]

theorem Extends.filterUse?_eq {before after : Graph} (grown : before.Extends after) {node : Node}
    (closed : ∀ input ∈ node.inputs, input < before.size) :
    after.filterUse? node = before.filterUse? node := by
  have same : node.inputs[1]?.bind after.node? = node.inputs[1]?.bind before.node? := by
    cases second : node.inputs[1]? with
    | none => rfl
    | some input =>
      have below := closed input (List.mem_of_getElem? second)
      exact grown.node?_eq below
  rw [filterUse?, filterUse?, same]

theorem Grows.refl (graph : Graph) : graph.Grows graph [] := by
  have rest : graph.nodes.drop graph.size = [] := List.drop_length
  constructor
  · exact Extends.refl graph
  · simp [rest]
  · simp [filterUsesFrom, rest]

theorem Grows.trans {first second third : Graph} {uses more : List FilterUse}
    (early : first.Grows second uses) (late : second.Grows third more) :
    first.Grows third (uses ++ more) := by
  have rest := early.longer.drop_eq late.longer
  constructor
  · exact early.longer.trans late.longer
  · intro node member input used
    rw [rest] at member
    rcases List.mem_append.1 member with old | new
    · exact Nat.lt_of_lt_of_le (early.closed node old input used) late.longer.size_le
    · exact late.closed node new input used
  · have kept : (second.nodes.drop first.size).filterMap third.filterUse? = uses := by
      rw [← early.filterUses, filterUsesFrom]
      apply List.filterMap_congr
      intro node member
      exact late.longer.filterUse?_eq (early.closed node member)
    have added : (third.nodes.drop second.size).filterMap third.filterUse? = more := late.filterUses
    rw [filterUsesFrom, rest, List.filterMap_append, kept, added]

theorem Denote.bind_node? {graph : Graph} {ids : List NodeId} {nodes : List Node}
    (denoted : graph.Denote ids nodes) (position : Nat) :
    ids[position]?.bind graph.node? = nodes[position]? := by
  induction denoted generalizing position with
  | nil => simp
  | cons found _ ih =>
    cases position with
    | zero => simpa using found
    | succ position => simpa using ih position

theorem grows_push (graph : Graph) (op : Op) {ids : List NodeId} {nodes : List Node}
    (denoted : graph.Denote ids nodes) (type : OutputType) :
    graph.Grows (graph.push op ids type).2 (op.filterUses nodes) := by
  have grown := extends_push graph op ids type
  have below := lt_size_of_denote denoted
  have rest : (graph.push op ids type).2.nodes.drop graph.size = [(graph.push op ids type).1] := by
    rw [nodes_push, size, List.drop_left]
  constructor
  · exact grown
  · intro node member input used
    rw [rest, List.mem_singleton] at member
    subst member
    exact Nat.lt_of_lt_of_le (below input used) grown.size_le
  · have same : (graph.push op ids type).2.filterUse? (graph.push op ids type).1 =
        graph.filterUse? (graph.push op ids type).1 := grown.filterUse?_eq below
    rw [filterUsesFrom, rest, Op.filterUses, ← denoted.bind_node? 1]
    rw [List.filterMap_cons, same, List.filterMap_nil, filterUse?]
    by_cases convolution : op.isConvolution <;> simp [convolution]

theorem grows_push_source (graph : Graph) (op : Op) (source : op.isConvolution = false)
    (type : OutputType) : graph.Grows (graph.push op [] type).2 [] := by
  have grown : graph.Grows (graph.push op [] type).2 (op.filterUses []) :=
    grows_push graph op .nil type
  rwa [Op.filterUses, source] at grown

/-! ### Nodes of a kind -/

/-- Nodes were added; those of the kind are the given ones, in order. -/
structure Brings (kind : Op → Bool) (before after : Graph) (nodes : List Node) : Prop where
  longer : before.Extends after
  brought : (after.nodes.drop before.size).filter (fun node => kind node.op) = nodes

theorem Brings.refl {kind : Op → Bool} (graph : Graph) : graph.Brings kind graph [] := by
  refine ⟨.refl graph, ?_⟩
  rw [size, List.drop_length, List.filter_nil]

theorem Brings.trans {kind : Op → Bool} {first second third : Graph} {nodes more : List Node}
    (early : first.Brings kind second nodes) (late : second.Brings kind third more) :
    first.Brings kind third (nodes ++ more) := by
  refine ⟨early.longer.trans late.longer, ?_⟩
  rw [early.longer.drop_eq late.longer, List.filter_append, early.brought, late.brought]

theorem brings_push (kind : Op → Bool) (graph : Graph) (op : Op) (inputs : List NodeId)
    (type : OutputType) :
    graph.Brings kind (graph.push op inputs type).2
      (if kind op then [(graph.push op inputs type).1] else []) := by
  refine ⟨graph.extends_push op inputs type, ?_⟩
  rw [nodes_push, size, List.drop_left]
  cases meets : kind op <;> simp [meets]

theorem brings_nothing_push {kind : Op → Bool} (graph : Graph) {op : Op} (other : kind op = false)
    (inputs : List NodeId) (type : OutputType) :
    graph.Brings kind (graph.push op inputs type).2 [] := by
  have brings := graph.brings_push kind op inputs type
  rwa [other] at brings

end Graph

end PartitionLowering
