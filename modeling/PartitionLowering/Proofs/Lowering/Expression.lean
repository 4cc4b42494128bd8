import Mathlib.Data.List.Induction
import PartitionLowering.Proofs.Engine.Reading
import PartitionLowering.Proofs.Lowering.SideBySide

/-!
What the nodes of a graph compute, unfolded into trees.  `Graph.expression?` unfolds a node down to constants
and to parameters, which stand under the operands that they are bound to.  An expression does not change
when nodes are added (`Extends.expression?`) or parameters behind it are named (`expression?_congr`).
Inference sees no more of its inputs than their expressions, so that graphs of two runs can be compared
node by node through them (`Likeness.trees`).
-/

set_option autoImplicit false

namespace PartitionLowering

/-- What a node computes.  A constant is a node without inputs and is told by its payload. -/
inductive Expression
  | operand (index : OperandIndex) (type : OutputType)
  | node (op : Op) (type : OutputType) (inputs : List Expression)

abbrev Naming := NodeId → Option OperandIndex

def Expression.root : Expression → Node
  | .operand _ type => .ofType type
  | .node op type _ => ⟨0, op, [], type.1, type.2⟩

/-- A node unfolded, behind nodes of which the expressions are known. -/
def Node.expression? (names : Naming) (known : List (Option Expression)) (node : Node) :
    Option Expression :=
  if node.op = .parameter then (names known.length).map fun index => .operand index node.outputType
  else (node.inputs.mapM fun input => known[input]?.join).map (.node node.op node.outputType)

def expressionsFrom (names : Naming) : List (Option Expression) → List Node → List (Option Expression)
  | known, [] => known
  | known, node :: rest => expressionsFrom names (known ++ [node.expression? names known]) rest

section Lists

variable (names : Naming)

theorem expressionsFrom_append (known : List (Option Expression)) (nodes more : List Node) :
    expressionsFrom names known (nodes ++ more) =
      expressionsFrom names (expressionsFrom names known nodes) more := by
  induction nodes generalizing known with
  | nil => rfl
  | cons node rest ih => exact ih _

theorem prefix_expressionsFrom (known : List (Option Expression)) (nodes : List Node) :
    known <+: expressionsFrom names known nodes := by
  induction nodes generalizing known with
  | nil => exact List.prefix_refl known
  | cons node rest ih => exact (List.prefix_append known _).trans (ih _)

theorem length_expressionsFrom (known : List (Option Expression)) (nodes : List Node) :
    (expressionsFrom names known nodes).length = known.length + nodes.length := by
  induction nodes generalizing known with
  | nil => rfl
  | cons node rest ih =>
    rw [expressionsFrom, ih, List.length_append, List.length_singleton, List.length_cons]
    omega

variable {names} {names' : Naming}

/-- Unfolding asks for the names of the nodes that it unfolds only. -/
theorem expressionsFrom_congr {nodes : List Node} :
    ∀ {known : List (Option Expression)},
      (∀ id, id < known.length + nodes.length → names id = names' id) →
      expressionsFrom names known nodes = expressionsFrom names' known nodes := by
  induction nodes with
  | nil =>
    intro known _
    rfl
  | cons node rest ih =>
    intro known same
    have here : node.expression? names known = node.expression? names' known := by
      have length : known.length < known.length + (node :: rest).length :=
        Nat.lt_add_of_pos_right (Nat.succ_pos _)
      rw [Node.expression?, Node.expression?, same _ length]
    rw [expressionsFrom, expressionsFrom, here]
    apply ih
    intro id below
    apply same id
    rw [List.length_append, List.length_singleton] at below
    rw [List.length_cons]
    omega

end Lists

namespace Graph

def expressions (names : Naming) (graph : Graph) : List (Option Expression) :=
  expressionsFrom names [] graph.nodes

/-- What a node of a graph computes; nodes that build on a parameter without a name have no expression. -/
def expression? (names : Naming) (graph : Graph) (id : NodeId) : Option Expression :=
  (graph.expressions names)[id]?.join

variable {names names' : Naming} {graph longer : Graph} {id : NodeId} {tree : Expression}

theorem length_expressions (names : Naming) (graph : Graph) :
    (graph.expressions names).length = graph.size := by
  rw [expressions, length_expressionsFrom, List.length_nil, Nat.zero_add, size]

theorem lt_size_of_expression? (shown : graph.expression? names id = some tree) : id < graph.size := by
  have found := Option.join_eq_some_iff.1 shown
  obtain ⟨below, _⟩ := List.getElem?_eq_some_iff.1 found
  rwa [length_expressions] at below

theorem Extends.expression? (grown : graph.Extends longer)
    (shown : graph.expression? names id = some tree) : longer.expression? names id = some tree := by
  have below := lt_size_of_expression? shown
  obtain ⟨more, whole⟩ := grown
  have kept : graph.expressions names <+: longer.expressions names := by
    rw [expressions, expressions, ← whole, expressionsFrom_append]
    exact prefix_expressionsFrom names _ more
  obtain ⟨others, whole'⟩ := kept
  rw [← length_expressions names] at below
  rw [Graph.expression?, ← whole', List.getElem?_append_left below]
  exact shown

theorem expression?_congr (same : ∀ id, id < graph.size → names id = names' id) (id : NodeId) :
    graph.expression? names id = graph.expression? names' id := by
  have lists : graph.expressions names = graph.expressions names' := by
    apply expressionsFrom_congr
    intro id below
    rw [List.length_nil, Nat.zero_add] at below
    exact same id below
  rw [Graph.expression?, Graph.expression?, lists]

theorem expression?_push_self (names : Naming) (graph : Graph) (op : Op) (inputs : List NodeId)
    (type : OutputType) :
    (graph.push op inputs type).2.expression? names graph.size =
      if op = .parameter then (names graph.size).map fun index => .operand index type
      else (inputs.mapM (graph.expression? names)).map (.node op type) := by
  have last : (graph.push op inputs type).2.expressions names =
      graph.expressions names ++
        [(graph.push op inputs type).1.expression? names (graph.expressions names)] := by
    rw [expressions, nodes_push, expressionsFrom_append]
    rfl
  have here : (graph.push op inputs type).2.expression? names graph.size =
      (graph.push op inputs type).1.expression? names (graph.expressions names) := by
    rw [Graph.expression?, last, ← length_expressions names graph, List.getElem?_concat_length]
    rfl
  rw [here, Node.expression?, length_expressions]
  rfl

example :
    (Graph.mk [⟨0, .parameter, [], [2], .f32⟩, ⟨1, .add, [0, 0], [2], .f32⟩]).expression?
        (fun _ => some 7) 1 =
      some (.node .add ([2], .f32) [.operand 7 ([2], .f32), .operand 7 ([2], .f32)]) :=
  rfl

end Graph

/-! ## What inference sees -/

/-- A node holds what its expression tells of it. -/
theorem Node.of_expression? {names : Naming} {known : List (Option Expression)} {node : Node}
    {tree : Expression} (shown : node.expression? names known = some tree) :
    node.Alike tree.root ∧ node.integers? = tree.root.integers? := by
  rw [Node.expression?] at shown
  by_cases parameter : node.op = .parameter
  · rw [if_pos parameter] at shown
    obtain ⟨index, _, rfl⟩ := Option.map_eq_some_iff.1 shown
    refine ⟨rfl, ?_⟩
    rw [Node.integers?, parameter]
    rfl
  · rw [if_neg parameter] at shown
    obtain ⟨trees, _, rfl⟩ := Option.map_eq_some_iff.1 shown
    exact ⟨rfl, rfl⟩

theorem exists_node_of_expressions {names : Naming} {nodes : List Node} {id : NodeId}
    {tree : Expression} (found : (expressionsFrom names [] nodes)[id]? = some (some tree)) :
    ∃ node known, nodes[id]? = some node ∧ node.expression? names known = some tree := by
  -- from the end: an expression is that of the last node or stands among those before it
  induction nodes using List.reverseRecOn with
  | nil => cases found
  | append_singleton earlier node ih =>
    have length : (expressionsFrom names [] earlier).length = earlier.length := by
      rw [length_expressionsFrom, List.length_nil, Nat.zero_add]
    rw [expressionsFrom_append, expressionsFrom, expressionsFrom] at found
    by_cases before : id < earlier.length
    · rw [List.getElem?_append_left (length ▸ before)] at found
      obtain ⟨other, known, here, shown⟩ := ih found
      exact ⟨other, known, by rw [List.getElem?_append_left before, here], shown⟩
    · have below := (List.getElem?_eq_some_iff.1 found).1
      rw [List.length_append, length, List.length_singleton] at below
      have last : id = earlier.length :=
        Nat.le_antisymm (Nat.le_of_lt_succ below) (Nat.not_lt.1 before)
      subst last
      rw [← length, List.getElem?_concat_length] at found
      exact ⟨node, _, List.getElem?_concat_length, Option.some.inj found⟩

theorem Graph.node_of_expression? {names : Naming} {graph : Graph} {id : NodeId} {tree : Expression}
    (shown : graph.expression? names id = some tree) :
    ∃ node, graph.node? id = some node ∧ node.Alike tree.root ∧
      node.integers? = tree.root.integers? := by
  obtain ⟨node, known, found, here⟩ := exists_node_of_expressions (Option.join_eq_some_iff.1 shown)
  exact ⟨node, found, Node.of_expression? here⟩

def SameExpression (names names' : Naming) (graph graph' : Graph) (id id' : NodeId) : Prop :=
  ∃ tree, graph.expression? names id = some tree ∧ graph'.expression? names' id' = some tree

section Comparing

variable {names names' : Naming} {graph graph' : Graph} {ids ids' : List NodeId}

theorem denote_of_sameExpression
    (same : List.Forall₂ (SameExpression names names' graph graph') ids ids') :
    ∃ nodes nodes', graph.Denote ids nodes ∧ graph'.Denote ids' nodes' ∧
      List.Forall₂ (fun node node' => node.Alike node' ∧ node.integers? = node'.integers?)
        nodes nodes' := by
  induction same with
  | nil => exact ⟨[], [], .nil, .nil, .nil⟩
  | cons first _ ih =>
    obtain ⟨tree, shown, shown'⟩ := first
    obtain ⟨node, found, alike, integers⟩ := Graph.node_of_expression? shown
    obtain ⟨node', found', alike', integers'⟩ := Graph.node_of_expression? shown'
    obtain ⟨nodes, nodes', denoted, denoted', rest⟩ := ih
    exact ⟨node :: nodes, node' :: nodes', .cons found denoted, .cons found' denoted',
      .cons ⟨alike.trans alike'.symm, integers.trans integers'.symm⟩ rest⟩

theorem mapM_of_sameExpression
    (same : List.Forall₂ (SameExpression names names' graph graph') ids ids') :
    ∃ trees, ids.mapM (graph.expression? names) = some trees ∧
      ids'.mapM (graph'.expression? names') = some trees := by
  induction same with
  | nil => exact ⟨[], rfl, rfl⟩
  | cons first _ ih =>
    obtain ⟨tree, shown, shown'⟩ := first
    obtain ⟨trees, all, all'⟩ := ih
    refine ⟨tree :: trees, ?_, ?_⟩
    · rw [List.mapM_cons, shown, all]
      rfl
    · rw [List.mapM_cons, shown', all']
      rfl

end Comparing

def Likeness.trees (names names' : Naming) : Likeness where
  Graphs _ _ := True
  Ids := SameExpression names names'
  mono := by
    rintro graph graph' longer longer' id id' grown grown' ⟨tree, shown, shown'⟩
    exact ⟨tree, grown.expression? shown, grown'.expression? shown'⟩
  typed := by
    rintro graph graph' id id' _ ⟨tree, shown, shown'⟩
    obtain ⟨node, found, alike, _⟩ := Graph.node_of_expression? shown
    obtain ⟨node', found', alike', _⟩ := Graph.node_of_expression? shown'
    have same : node.outputType = node'.outputType := alike.trans alike'.symm
    rw [found, found', Option.map_some, Option.map_some, same]
  infer := by
    intro graph graph' ids ids' _ same op
    obtain ⟨nodes, nodes', denoted, denoted', alike⟩ := denote_of_sameExpression same
    rw [Graph.infer_of_resolve (Graph.resolve_eq_ok.2 denoted),
      Graph.infer_of_resolve (Graph.resolve_eq_ok.2 denoted')]
    apply Op.infer_congr op (alike.imp fun _ _ both => both.1)
    intro position _
    exact integers_at (alike.imp fun _ _ both => both.2) position
  push := by
    intro graph graph' ids ids' _ same op kind type
    obtain ⟨trees, all, all'⟩ := mapM_of_sameExpression same
    refine ⟨trivial, .node op type trees, ?_, ?_⟩
    · rw [Graph.expression?_push_self, if_neg kind, all, Option.map_some]
    · rw [Graph.expression?_push_self, if_neg kind, all', Option.map_some]

end PartitionLowering
