import Mathlib.Logic.Relation
import PartitionLowering.Proofs.Engine.Growth
import PartitionLowering.Proofs.Engine.Inference

/-!
Regular graphs.  A node is regular when its extents and those of its window are positive and its data
keeps its elements through a transpose or a reshape (`Graph.Regular`).  `Graph.Adds` is one addition to a
graph: a source of positive extents, or an operation whose window is positive and whose type was
inferred; `Graph.Develops` is a run of additions.  Additions keep a graph regular
(`Develops.regularAll`): positive extents go through every rule of inference, so that nothing is asked of
an operation but its own window.
-/

set_option autoImplicit false

namespace PartitionLowering

namespace Op

/-- The strides and the dilations of a convolution, the strides and the kernel of a pool. -/
def windowExtents : Op → List Nat
  | .convolution attributes | .groupConvolution attributes | .convolutionBackpropData attributes =>
    attributes.strides.toList ++ attributes.dilations.toList
  | .maxPool attributes | .avgPool attributes _ =>
    attributes.strides.toList ++ attributes.kernel.toList
  | _ => []

def isSource : Op → Bool
  | .parameter | .constant _ => true
  | _ => false

end Op

namespace Graph

def inputNode? (graph : Graph) (node : Node) (position : Nat) : Option Node :=
  node.inputs[position]?.bind graph.node?

structure Regular (graph : Graph) (node : Node) : Prop where
  extents : node.shape.Positive
  window : ∀ extent ∈ node.op.windowExtents, 0 < extent
  kernel : ∀ axis, node.op.kernelAxis? = some axis →
    ∃ filter height width, graph.inputNode? node 1 = some filter ∧
      filter.shape.drop axis = [height, width] ∧ 0 < height ∧ 0 < width
  kept : node.op.rearranges = true →
    ∃ data, graph.inputNode? node 0 = some data ∧ node.shape.prod = data.shape.prod

def RegularAll (graph : Graph) : Prop :=
  ∀ id node, graph.node? id = some node → graph.Regular node

theorem Extends.inputNode? {before after : Graph} (grown : before.Extends after) {node input : Node}
    {position : Nat} (found : before.inputNode? node position = some input) :
    after.inputNode? node position = some input := by
  obtain ⟨id, here, held⟩ := Option.bind_eq_some_iff.1 found
  exact Option.bind_eq_some_iff.2 ⟨id, here, grown.node? held⟩

theorem Regular.mono {before after : Graph} (grown : before.Extends after) {node : Node}
    (regular : before.Regular node) : after.Regular node where
  extents := regular.extents
  window := regular.window
  kernel := by
    intro axis convolves
    obtain ⟨filter, height, width, found, ends⟩ := regular.kernel axis convolves
    exact ⟨filter, height, width, grown.inputNode? found, ends⟩
  kept := by
    intro rearranging
    obtain ⟨data, found, same⟩ := regular.kept rearranging
    exact ⟨data, grown.inputNode? found, same⟩

theorem regular_source (graph : Graph) {node : Node} (source : node.op.isSource = true)
    (positive : node.shape.Positive) : graph.Regular node := by
  obtain ⟨id, op, inputs, shape, elementType⟩ := node
  cases op <;> cases source
  all_goals exact ⟨positive, List.forall_mem_nil _, nofun, nofun⟩

/-- A node of an inferred type is regular where its inputs have positive extents and its window is
positive. -/
theorem regular_of_infer {graph : Graph} (regular : graph.RegularAll) {op : Op} {inputs : List NodeId}
    {type : OutputType} (window : ∀ extent ∈ op.windowExtents, 0 < extent)
    (inferred : graph.infer op inputs = .ok type) (id : NodeId) :
    graph.Regular ⟨id, op, inputs, type.1, type.2⟩ := by
  obtain ⟨nodes, denoted, typed⟩ := infer_eq_ok.1 inferred
  have inputs_at := denoted.bind_node?
  have positive : ∀ (position : Nat) (node : Node), nodes[position]? = some node →
      node.shape.Positive := by
    intro position node here
    rw [← inputs_at position] at here
    obtain ⟨other, _, held⟩ := Option.bind_eq_some_iff.1 here
    exact (regular other node held).extents
  constructor
  · apply Op.infer_positive _ typed
    intro node member
    obtain ⟨position, here⟩ := List.mem_iff_getElem?.1 member
    exact positive position node here
  · exact window
  · intro axis convolves
    obtain ⟨filter, height, width, second, ends⟩ := Op.infer_filter convolves typed
    have spatial : ∀ extent ∈ filter.shape.drop axis, 0 < extent := fun extent member =>
      positive 1 filter second extent (List.mem_of_mem_drop member)
    rw [ends] at spatial
    exact ⟨filter, height, width, (inputs_at 1).trans second, ends, spatial height (by simp),
      spatial width (by simp)⟩
  · intro rearranging
    obtain ⟨data, first, same⟩ := Op.infer_prod rearranging typed
    exact ⟨data, (inputs_at 0).trans first, same⟩

/-! ## Additions -/

inductive Adds (graph : Graph) : Graph → Prop
  | source {op : Op} {type : OutputType} (source : op.isSource = true) (positive : type.1.Positive) :
    graph.Adds (graph.push op [] type).2
  | op {op : Op} {inputs : List NodeId} {type : OutputType}
    (window : ∀ extent ∈ op.windowExtents, 0 < extent)
    (inferred : graph.infer op inputs = .ok type) : graph.Adds (graph.push op inputs type).2

def Develops : Graph → Graph → Prop :=
  Relation.ReflTransGen Adds

theorem Adds.extends {before after : Graph} (adds : before.Adds after) : before.Extends after := by
  cases adds with
  | source => exact extends_push _ _ _ _
  | op => exact extends_push _ _ _ _

theorem Develops.extends {before after : Graph} (develops : before.Develops after) :
    before.Extends after := by
  induction develops with
  | refl => exact .refl before
  | tail _ last ih => exact ih.trans last.extends

theorem RegularAll.push {graph : Graph} (regular : graph.RegularAll) {op : Op} {inputs : List NodeId}
    {type : OutputType} (added : graph.Regular ⟨graph.size, op, inputs, type.1, type.2⟩) :
    (graph.push op inputs type).2.RegularAll := by
  have grown := extends_push graph op inputs type
  intro id node found
  rcases node?_push_cases graph op inputs type found with old | ⟨_, rfl⟩
  · exact (regular id node old).mono grown
  · exact added.mono grown

theorem Adds.regularAll {before after : Graph} (adds : before.Adds after)
    (regular : before.RegularAll) : after.RegularAll := by
  cases adds with
  | source source positive => exact regular.push (regular_source _ source positive)
  | op window inferred => exact regular.push (regular_of_infer regular window inferred _)

theorem Develops.regularAll {before after : Graph} (develops : before.Develops after)
    (regular : before.RegularAll) : after.RegularAll := by
  induction develops with
  | refl => exact regular
  | tail _ last ih => exact last.regularAll ih

end Graph

end PartitionLowering
