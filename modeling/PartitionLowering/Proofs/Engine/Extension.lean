import Mathlib.Data.List.Forall2
import PartitionLowering.Engine.Graph

/-!
Growth of a graph.  `Graph.Extends` relates a graph to one with further nodes behind its own.  What an
operation reads of the nodes before it stays readable: `Extends.node?`, `Extends.resolve`,
`Extends.infer`.  The node behind an id is told by `node?_push_self`, and `resolve_eq_ok` reads the
nodes of a list of ids one by one.
-/

set_option autoImplicit false

namespace PartitionLowering

def Node.outputType (node : Node) : OutputType :=
  (node.shape, node.elementType)

namespace Graph

/-- `after` has the nodes of `before` in front. -/
def Extends (before after : Graph) : Prop :=
  before.nodes <+: after.nodes

theorem Extends.refl (graph : Graph) : graph.Extends graph :=
  List.prefix_refl graph.nodes

theorem Extends.trans {first second third : Graph} (early : first.Extends second)
    (late : second.Extends third) : first.Extends third :=
  List.IsPrefix.trans early late

theorem Extends.size_le {before after : Graph} (grown : before.Extends after) :
    before.size ≤ after.size :=
  List.IsPrefix.length_le grown

theorem lt_size_of_node? {graph : Graph} {id : NodeId} {node : Node}
    (found : graph.node? id = some node) : id < graph.size := by
  obtain ⟨below, _⟩ := List.getElem?_eq_some_iff.1 found
  exact below

theorem exists_node?_of_lt_size {graph : Graph} {id : NodeId} (below : id < graph.size) :
    ∃ node, graph.node? id = some node :=
  ⟨graph.nodes.get ⟨id, below⟩, List.getElem?_eq_getElem below⟩

theorem contains_of_node? {graph : Graph} {id : NodeId} {node : Node}
    (found : graph.node? id = some node) : graph.contains id = true := by
  have below := lt_size_of_node? found
  simpa [contains] using below

theorem Extends.node?_eq {before after : Graph} (grown : before.Extends after) {id : NodeId}
    (below : id < before.size) : after.node? id = before.node? id := by
  obtain ⟨more, whole⟩ := grown
  rw [node?, node?, ← whole, List.getElem?_append_left below]

theorem Extends.node? {before after : Graph} (grown : before.Extends after) {id : NodeId}
    {node : Node} (found : before.node? id = some node) : after.node? id = some node := by
  rw [grown.node?_eq (lt_size_of_node? found), found]

theorem Extends.integers? {before after : Graph} (grown : before.Extends after) {id : NodeId}
    {integers : List Int} (read : before.integers? id = some integers) :
    after.integers? id = some integers := by
  obtain ⟨node, found, held⟩ := Option.bind_eq_some_iff.1 read
  exact Option.bind_eq_some_iff.2 ⟨node, grown.node? found, held⟩

/-! ## The new node -/

section Push

variable (graph : Graph) (op : Op) (inputs : List NodeId) (type : OutputType)

theorem extends_push : graph.Extends (graph.push op inputs type).2 :=
  List.prefix_append graph.nodes _

@[simp] theorem push_fst :
    (graph.push op inputs type).1 = ⟨graph.size, op, inputs, type.1, type.2⟩ :=
  rfl

@[simp] theorem nodes_push :
    (graph.push op inputs type).2.nodes = graph.nodes ++ [(graph.push op inputs type).1] :=
  rfl

@[simp] theorem size_push : (graph.push op inputs type).2.size = graph.size + 1 := by
  simp [size]

theorem node?_push_self :
    (graph.push op inputs type).2.node? graph.size = some (graph.push op inputs type).1 := by
  rw [node?, nodes_push, size, List.getElem?_concat_length]

theorem node?_push_cases {id : NodeId} {node : Node}
    (found : (graph.push op inputs type).2.node? id = some node) :
    graph.node? id = some node ∨ id = graph.size ∧ node = (graph.push op inputs type).1 := by
  have below := lt_size_of_node? found
  rw [size_push] at below
  by_cases old : id < graph.size
  · left
    rw [← (extends_push graph op inputs type).node?_eq old, found]
  · right
    have here : id = graph.size :=
      Nat.le_antisymm (Nat.lt_succ_iff.1 below) (Nat.not_lt.1 old)
    subst here
    rw [node?_push_self] at found
    exact ⟨rfl, (Option.some.inj found).symm⟩

end Push

/-! ## Looking up inputs -/

abbrev Denote (graph : Graph) : List NodeId → List Node → Prop :=
  List.Forall₂ fun id node => graph.node? id = some node

theorem resolve_cons_eq_ok {graph : Graph} {id : NodeId} {rest : List NodeId} {nodes : List Node} :
    graph.resolve (id :: rest) = .ok nodes ↔
      ∃ node others, graph.node? id = some node ∧ graph.resolve rest = .ok others ∧
        nodes = node :: others := by
  rw [resolve, List.mapM_cons]
  cases found : graph.node? id with
  | none => simp [bind, Except.bind]
  | some node =>
    cases tail : graph.resolve rest with
    | error error =>
      rw [resolve] at tail
      simp [bind, Except.bind, tail]
    | ok others =>
      rw [resolve] at tail
      simp [bind, Except.bind, pure, Except.pure, tail, eq_comm]

theorem resolve_eq_ok {graph : Graph} {ids : List NodeId} {nodes : List Node} :
    graph.resolve ids = .ok nodes ↔ graph.Denote ids nodes := by
  induction ids generalizing nodes with
  | nil =>
    rw [Denote, List.forall₂_nil_left_iff]
    simp [resolve, pure, Except.pure, eq_comm]
  | cons id rest ih =>
    rw [resolve_cons_eq_ok, Denote, List.forall₂_cons_left_iff]
    simp only [ih]

theorem Extends.denote {before after : Graph} (grown : before.Extends after) {ids : List NodeId}
    {nodes : List Node} (denoted : before.Denote ids nodes) : after.Denote ids nodes :=
  List.Forall₂.imp (fun _ _ found => grown.node? found) denoted

theorem infer_of_resolve {graph : Graph} {ids : List NodeId} {nodes : List Node}
    (resolved : graph.resolve ids = .ok nodes) (op : Op) : graph.infer op ids = op.infer nodes := by
  rw [infer, resolved]
  rfl

theorem infer_eq_ok {graph : Graph} {op : Op} {ids : List NodeId} {type : OutputType} :
    graph.infer op ids = .ok type ↔
      ∃ nodes, graph.Denote ids nodes ∧ op.infer nodes = .ok type := by
  constructor
  · intro inferred
    cases resolved : graph.resolve ids with
    | error error => simp [infer, resolved, bind, Except.bind] at inferred
    | ok nodes =>
      rw [infer_of_resolve resolved] at inferred
      exact ⟨nodes, resolve_eq_ok.1 resolved, inferred⟩
  · rintro ⟨nodes, denoted, inferred⟩
    rw [infer_of_resolve (resolve_eq_ok.2 denoted), inferred]

theorem infer_single_eq_ok {graph : Graph} {op : Op} {id : NodeId} {type : OutputType} :
    graph.infer op [id] = .ok type ↔
      ∃ node, graph.node? id = some node ∧ op.infer [node] = .ok type := by
  rw [infer_eq_ok]
  constructor
  · rintro ⟨nodes, denoted, inferred⟩
    cases denoted with
    | cons held rest =>
      cases rest
      exact ⟨_, held, inferred⟩
  · rintro ⟨node, held, inferred⟩
    exact ⟨[node], .cons held .nil, inferred⟩

theorem infer_pair_eq_ok {graph : Graph} {op : Op} {first second : NodeId} {type : OutputType} :
    graph.infer op [first, second] = .ok type ↔
      ∃ node node', graph.node? first = some node ∧ graph.node? second = some node' ∧
        op.infer [node, node'] = .ok type := by
  rw [infer_eq_ok]
  constructor
  · rintro ⟨nodes, denoted, inferred⟩
    cases denoted with
    | cons held rest =>
      cases rest with
      | cons held' rest =>
        cases rest
        exact ⟨_, _, held, held', inferred⟩
  · rintro ⟨node, node', held, held', inferred⟩
    exact ⟨[node, node'], .cons held (.cons held' .nil), inferred⟩

theorem Extends.infer {before after : Graph} (grown : before.Extends after) {op : Op}
    {ids : List NodeId} {type : OutputType} (inferred : before.infer op ids = .ok type) :
    after.infer op ids = .ok type := by
  obtain ⟨nodes, denoted, typed⟩ := infer_eq_ok.1 inferred
  exact infer_eq_ok.2 ⟨nodes, grown.denote denoted, typed⟩

theorem lt_size_of_denote {graph : Graph} {ids : List NodeId} {nodes : List Node}
    (denoted : graph.Denote ids nodes) : ∀ id ∈ ids, id < graph.size := by
  induction denoted with
  | nil => simp
  | cons found _ ih =>
    intro id member
    rcases List.mem_cons.1 member with rfl | member
    · exact lt_size_of_node? found
    · exact ih id member

end Graph

end PartitionLowering
