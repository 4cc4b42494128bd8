import PartitionLowering.Engine.Model
import PartitionLowering.Proofs.Engine.Reading

/-!
What a dump leaves out, and graphs that differ in payloads alone.  Models that show alike
(`Model.ShownAlike`) have one dump.  `Graph.SameBut` compares two graphs node by node; constants of the
hidden element types may hold other bytes of the same length.  Where no hidden type is read as integers,
inference comes to the same on both (`SameBut.infer`), and the dumps are equal
(`Model.dump_eq_of_sameBut`).
-/

set_option autoImplicit false

namespace PartitionLowering

/-! ## What a dump shows -/

/-- Operations that are equal but for what a dump leaves out. -/
inductive Op.ShownAlike : Op → Op → Prop
  | same (op : Op) : ShownAlike op op
  | constant {payload payload' : List UInt8} (lengths : payload.length = payload'.length) :
      ShownAlike (.constant payload) (.constant payload')
  | avgPool (attributes : PoolAttributes) (excludePad excludePad' : Bool) :
      ShownAlike (.avgPool attributes excludePad) (.avgPool attributes excludePad')
  | clamp {min max min' max' : Float} (least : Style.plain.text64 min = Style.plain.text64 min')
      (greatest : Style.plain.text64 max = Style.plain.text64 max') :
      ShownAlike (.clamp min max) (.clamp min' max')

structure Node.ShownAlike (node other : Node) : Prop where
  id : node.id = other.id
  op : node.op.ShownAlike other.op
  inputs : node.inputs = other.inputs
  elementType : node.elementType = other.elementType
  shape : node.shape = other.shape

structure Model.ShownAlike (model other : Model) : Prop where
  nodes : List.Forall₂ Node.ShownAlike model.graph.nodes other.graph.nodes
  parameters : model.parameters = other.parameters
  results : model.results = other.results

theorem Op.ShownAlike.texts {op other : Op} (alike : op.ShownAlike other) :
    op.name = other.name ∧ op.summary = other.summary := by
  cases alike with
  | same => exact ⟨rfl, rfl⟩
  | constant lengths => exact ⟨rfl, by rw [Op.summary, Op.summary, lengths]⟩
  | avgPool => exact ⟨rfl, rfl⟩
  | clamp least greatest => exact ⟨rfl, by rw [Op.summary, Op.summary, least, greatest]⟩

theorem Node.ShownAlike.line {node other : Node} (alike : node.ShownAlike other) :
    node.line = other.line := by
  rw [Node.line, Node.line, Node.attributeText, Node.attributeText, alike.op.texts.1,
    alike.op.texts.2, alike.id, alike.inputs, alike.elementType, alike.shape]

theorem Model.ShownAlike.dump {model other : Model} (alike : model.ShownAlike other) :
    model.dump = other.dump := by
  have lines : model.graph.nodes.map Node.line = other.graph.nodes.map Node.line := by
    rw [← List.forall₂_eq_eq_eq, List.forall₂_map_left_iff, List.forall₂_map_right_iff]
    exact alike.nodes.imp fun _ _ alike => alike.line
  rw [Model.dump, Model.dump, Model.lines, Model.lines, lines, alike.parameters, alike.results]

/-! ## Payloads -/

/-- Operations of a node of some type that are equal, or constants of a hidden type and of one length. -/
def Op.SameBut (hidden : List ElementType) (elementType : ElementType) (op other : Op) : Prop :=
  op = other ∨ elementType ∈ hidden ∧ ∃ payload payload', op = .constant payload ∧
    other = .constant payload' ∧ payload.length = payload'.length

structure Node.SameBut (hidden : List ElementType) (node other : Node) : Prop where
  id : node.id = other.id
  op : node.op.SameBut hidden node.elementType other.op
  inputs : node.inputs = other.inputs
  shape : node.shape = other.shape
  elementType : node.elementType = other.elementType

def Graph.SameBut (hidden : List ElementType) (graph other : Graph) : Prop :=
  List.Forall₂ (Node.SameBut hidden) graph.nodes other.nodes

def Unread (hidden : List ElementType) : Prop :=
  ∀ type ∈ hidden, type.integerCode? = none

namespace Node

variable {hidden : List ElementType} {node other : Node}

theorem SameBut.alike (same : node.SameBut hidden other) : node.Alike other :=
  Prod.ext same.shape same.elementType

theorem SameBut.integers? (unread : Unread hidden) (same : node.SameBut hidden other) :
    node.integers? = other.integers? := by
  rcases same.op with op | ⟨member, payload, payload', op, op', _⟩
  · rw [Node.integers?, Node.integers?, op, same.elementType]
  · have code := unread _ member
    have code' : other.elementType.integerCode? = none := by rw [← same.elementType, code]
    rw [Node.integers?, Node.integers?, op, op', code, code']
    rfl

theorem SameBut.shownAlike (same : node.SameBut hidden other) : node.ShownAlike other := by
  refine ⟨same.id, ?_, same.inputs, same.elementType, same.shape⟩
  rcases same.op with op | ⟨_, payload, payload', op, op', lengths⟩
  · rw [op]
    exact .same _
  · rw [op, op']
    exact .constant lengths

theorem SameBut.eq (same : node.SameBut [] other) : node = other := by
  obtain ⟨id, op, inputs, shape, elementType⟩ := same
  have op := op.resolve_right fun hidden => absurd hidden.1 List.not_mem_nil
  cases node
  cases other
  cases id
  cases op
  cases inputs
  cases shape
  cases elementType
  rfl

end Node

namespace Graph

variable {hidden : List ElementType} {graph other : Graph}

theorem SameBut.size (same : graph.SameBut hidden other) : graph.size = other.size :=
  List.Forall₂.length_eq same

theorem SameBut.eq (same : graph.SameBut [] other) : graph = other := by
  have nodes : graph.nodes = other.nodes := by
    rw [← List.forall₂_eq_eq_eq]
    exact List.Forall₂.imp (fun _ _ same => same.eq) same
  cases graph
  cases other
  cases nodes
  rfl

theorem SameBut.node? (same : graph.SameBut hidden other) (id : NodeId) :
    graph.node? id = none ∧ other.node? id = none ∨
      ∃ node node', graph.node? id = some node ∧ other.node? id = some node' ∧
        node.SameBut hidden node' := by
  have sizes := same.size
  by_cases below : id < graph.size
  · right
    obtain ⟨node, found⟩ := exists_node?_of_lt_size below
    obtain ⟨node', found'⟩ := exists_node?_of_lt_size (sizes ▸ below)
    refine ⟨node, node', found, found', ?_⟩
    obtain ⟨inside, here⟩ := List.getElem?_eq_some_iff.1 found
    obtain ⟨inside', here'⟩ := List.getElem?_eq_some_iff.1 found'
    rw [← here, ← here']
    exact List.Forall₂.get same inside inside'
  · left
    have above : graph.size ≤ id := Nat.not_lt.1 below
    have above' : other.size ≤ id := by rwa [← sizes]
    exact ⟨List.getElem?_eq_none above, List.getElem?_eq_none above'⟩

theorem SameBut.resolve (same : graph.SameBut hidden other) (ids : List NodeId) :
    (∃ error, graph.resolve ids = .error error ∧ other.resolve ids = .error error) ∨
      ∃ nodes nodes', graph.resolve ids = .ok nodes ∧ other.resolve ids = .ok nodes' ∧
        List.Forall₂ (Node.SameBut hidden) nodes nodes' := by
  induction ids with
  | nil => exact .inr ⟨[], [], rfl, rfl, .nil⟩
  | cons id rest ih =>
    simp only [Graph.resolve, List.mapM_cons] at ih ⊢
    rcases same.node? id with ⟨missing, missing'⟩ | ⟨node, node', found, found', alike⟩
    · left
      exact ⟨.unknownNode id, by rw [missing, error_bind], by rw [missing', error_bind]⟩
    · rw [found, found', ok_bind, ok_bind]
      rcases ih with ⟨error, missed, missed'⟩ | ⟨nodes, nodes', found, found', alikes⟩
      · left
        exact ⟨error, by rw [missed, error_bind], by rw [missed', error_bind]⟩
      · right
        exact ⟨node :: nodes, node' :: nodes', by rw [found]; rfl, by rw [found']; rfl,
          .cons alike alikes⟩

theorem SameBut.infer (unread : Unread hidden) (same : graph.SameBut hidden other) (op : Op)
    (ids : List NodeId) : graph.infer op ids = other.infer op ids := by
  rcases same.resolve ids with ⟨error, missed, missed'⟩ | ⟨nodes, nodes', found, found', alike⟩
  · rw [Graph.infer, Graph.infer, missed, missed']
  · rw [infer_of_resolve found, infer_of_resolve found']
    apply Op.infer_congr op (alike.imp fun _ _ same => same.alike)
    intro position _
    exact integers_at (alike.imp fun _ _ same => same.integers? unread) position

theorem SameBut.push (same : graph.SameBut hidden other) {op op' : Op} {type : OutputType}
    (ops : op.SameBut hidden type.2 op') (inputs : List NodeId) :
    (graph.push op inputs type).2.SameBut hidden (other.push op' inputs type).2 := by
  have last : (graph.push op inputs type).1.SameBut hidden (other.push op' inputs type).1 :=
    ⟨same.size, ops, rfl, rfl, rfl⟩
  exact List.rel_append same (.cons last .nil)

end Graph

/-- Payloads leave no trace in a dump but their lengths. -/
theorem Model.dump_eq_of_sameBut {hidden : List ElementType} {model other : Model}
    (graphs : model.graph.SameBut hidden other.graph) (parameters : model.parameters = other.parameters)
    (results : model.results = other.results) : model.dump = other.dump :=
  Model.ShownAlike.dump ⟨graphs.imp fun _ _ same => same.shownAlike, parameters, results⟩

end PartitionLowering
