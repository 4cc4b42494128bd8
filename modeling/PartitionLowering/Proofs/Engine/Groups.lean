import PartitionLowering.Proofs.Engine.Joins
import PartitionLowering.Proofs.Engine.Windows

/-!
Grouped convolutions.  A grouped convolution slides the kernel of one group over the data
(`Inference.groupConvolution_eq_ok`), as the convolution of that group alone does, and copies of one node
joined along an axis have its extent there as many times (`Inference.concat_copies`).  So a grouped
convolution has the type of its groups' outputs joined along the channels
(`Graph.groupConvolution_joins_groups`).
-/

set_option autoImplicit false

namespace PartitionLowering

namespace Inference

variable {op : String} {attributes : ConvAttributes} {type : OutputType} {data filter : Node}
  {batch channels groups outputs inputs height width rows columns : Nat}

theorem convolution_eq_ok (shape : data.shape = [batch, channels, height, width])
    (filterShape : filter.shape = [outputs, inputs, rows, columns]) :
    convolution op attributes [data, filter] = .ok type ↔
      (channels = inputs ∧ Window.Slides ⟨height, width⟩ ⟨rows, columns⟩ attributes) ∧
        type = (Window.outputShape batch outputs ⟨height, width⟩ ⟨rows, columns⟩ attributes,
          data.elementType) := by
  simp only [convolution, twoInputs, ok_bind, shape, filterShape, rankFour, throw_eq_error, error_bind,
    guard_eq_ok, bind_eq_ok, Window.convolution_eq_ok, pure_eq_ok, not_not, Except.ok.injEq]
  constructor
  · rintro ⟨same, _, ⟨slides, rfl⟩, rfl⟩
    exact ⟨⟨same, slides⟩, rfl⟩
  · rintro ⟨⟨same, slides⟩, rfl⟩
    exact ⟨same, _, ⟨slides, rfl⟩, rfl⟩

theorem groupConvolution_eq_ok (shape : data.shape = [batch, channels, height, width])
    (filterShape : filter.shape = [groups, outputs, inputs, rows, columns]) :
    groupConvolution op attributes [data, filter] = .ok type ↔
      (groups * inputs = channels ∧ Window.Slides ⟨height, width⟩ ⟨rows, columns⟩ attributes) ∧
        type = (Window.outputShape batch (groups * outputs) ⟨height, width⟩ ⟨rows, columns⟩ attributes,
          data.elementType) := by
  simp only [groupConvolution, twoInputs, ok_bind, shape, filterShape, rankFour, rankFive,
    throw_eq_error, error_bind, guard_eq_ok, bind_eq_ok, Window.convolution_eq_ok, pure_eq_ok, not_not,
    Except.ok.injEq]
  constructor
  · rintro ⟨same, _, ⟨slides, rfl⟩, rfl⟩
    exact ⟨⟨same, slides⟩, rfl⟩
  · rintro ⟨⟨same, slides⟩, rfl⟩
    exact ⟨same, _, ⟨slides, rfl⟩, rfl⟩

/-! ## Copies of one node -/

/-- Copies joined along an axis that they have. -/
theorem concat_copies {axis : Int} {position : Nat} {first : Node} {count : Nat}
    (resolved : Shape.resolveAxis axis first.rank = .ok position) :
    concat op axis (List.replicate (count + 1) first) =
      .ok (first.shape.modify position (· + count * first.shape.getD position 0),
        first.elementType) := by
  have joined : joinParts op position first (List.replicate count first) first.shape =
      .ok (first.shape.modify position (· + count * first.shape.getD position 0)) := by
    refine joinParts_eq_ok.2 ⟨fun part member => ?_, by simp⟩
    rw [List.eq_of_mem_replicate member]
    exact ⟨rfl, rfl⟩
  rw [List.replicate_succ, concat, resolved, ok_bind, joined]
  rfl

end Inference

namespace Graph

section Additions

variable {graph : Graph} {op : Op} {ids : List NodeId} {nodes : List Node} {result : Node × Graph}

/-- An operation that has one type, where it has any, adds one node, where it adds any. -/
theorem addOp_of_infer {possible : Prop} {type : OutputType} (denoted : graph.Denote ids nodes)
    (typed : ∀ {type'}, op.infer nodes = .ok type' ↔ possible ∧ type' = type) :
    graph.addOp op ids = .ok result ↔ possible ∧ result = graph.push op ids type := by
  rw [addOp_eq_ok, infer_of_resolve (resolve_eq_ok.2 denoted)]
  constructor
  · rintro ⟨_, inferred, rfl⟩
    obtain ⟨holds, rfl⟩ := typed.1 inferred
    exact ⟨holds, rfl⟩
  · rintro ⟨holds, rfl⟩
    exact ⟨type, typed.2 ⟨holds, rfl⟩, rfl⟩

theorem denote_replicate {id : NodeId} {node : Node} (held : graph.node? id = some node)
    (count : Nat) : graph.Denote (List.replicate count id) (List.replicate count node) := by
  induction count with
  | zero => exact .nil
  | succ count ih => exact .cons held ih

/-- Copies of a node joined along its second axis. -/
theorem addOp_concat_copies {id : NodeId} {node : Node} {first second count : Nat} {rest : Shape}
    (held : graph.node? id = some node) (shape : node.shape = first :: second :: rest)
    (several : 1 ≤ count) :
    graph.addOp (.concat 1) (List.replicate count id) =
      .ok (graph.push (.concat 1) (List.replicate count id)
        (first :: count * second :: rest, node.elementType)) := by
  obtain ⟨others, rfl⟩ := Nat.exists_eq_add_of_le' several
  have resolved : Shape.resolveAxis 1 node.rank = .ok 1 := by
    simp [Shape.resolveAxis, Node.rank, shape]
  have joined : (Op.concat 1).infer (List.replicate (others + 1) node) =
      .ok (first :: (others + 1) * second :: rest, node.elementType) := by
    rw [Op.infer, Inference.concat_copies resolved, shape]
    simp [Nat.add_mul, Nat.add_comm]
  exact addOp_eq_ok.2 ⟨_, infer_eq_ok.2 ⟨_, denote_replicate held _, joined⟩, rfl⟩

end Additions

/-- Ids of an image and of a filter, with their shapes and the element type of the image. -/
def Convolves (graph : Graph) (ids : List NodeId) (image filter : Shape) (elementType : ElementType) :
    Prop :=
  ∃ data kernel, graph.Denote ids [data, kernel] ∧ (data.shape = image ∧ kernel.shape = filter) ∧
    data.elementType = elementType

section Convolutions

variable {graph : Graph} {ids : List NodeId} {attributes : ConvAttributes} {elementType : ElementType}
  {batch channels groups outputs inputs height width rows columns : Nat} {result : Node × Graph}

theorem addOp_convolution
    (operands : graph.Convolves ids [batch, channels, height, width] [outputs, inputs, rows, columns]
      elementType) :
    graph.addOp (.convolution attributes) ids = .ok result ↔
      (channels = inputs ∧ Window.Slides ⟨height, width⟩ ⟨rows, columns⟩ attributes) ∧
        result = graph.push (.convolution attributes) ids
          (Window.outputShape batch outputs ⟨height, width⟩ ⟨rows, columns⟩ attributes, elementType) := by
  obtain ⟨data, kernel, denoted, ⟨shape, shape'⟩, rfl⟩ := operands
  exact addOp_of_infer denoted (Inference.convolution_eq_ok shape shape')

theorem addOp_groupConvolution
    (operands : graph.Convolves ids [batch, channels, height, width]
      [groups, outputs, inputs, rows, columns] elementType) :
    graph.addOp (.groupConvolution attributes) ids = .ok result ↔
      (groups * inputs = channels ∧ Window.Slides ⟨height, width⟩ ⟨rows, columns⟩ attributes) ∧
        result = graph.push (.groupConvolution attributes) ids
          (Window.outputShape batch (groups * outputs) ⟨height, width⟩ ⟨rows, columns⟩ attributes,
            elementType) := by
  obtain ⟨data, kernel, denoted, ⟨shape, shape'⟩, rfl⟩ := operands
  exact addOp_of_infer denoted (Inference.groupConvolution_eq_ok shape shape')

end Convolutions

/-- A grouped convolution can be added exactly where the convolution of one of its groups can, with the
same attributes, and then it has the type of that many copies of the group's output joined along the
channels. -/
theorem groupConvolution_joins_groups {grouped plain : Graph} {attributes : ConvAttributes}
    {ids ids' : List NodeId} {groups batch inputs outputs height width rows columns : Nat}
    {elementType : ElementType} (some_groups : 1 ≤ groups)
    (whole : grouped.Convolves ids [batch, groups * inputs, height, width]
      [groups, outputs, inputs, rows, columns] elementType)
    (part : plain.Convolves ids' [batch, inputs, height, width] [outputs, inputs, rows, columns]
      elementType) :
    ((∃ joint after, grouped.addOp (.groupConvolution attributes) ids = .ok (joint, after)) ↔
      ∃ one between, plain.addOp (.convolution attributes) ids' = .ok (one, between)) ∧
    ∀ joint after one between,
      grouped.addOp (.groupConvolution attributes) ids = .ok (joint, after) →
      plain.addOp (.convolution attributes) ids' = .ok (one, between) →
      ∃ joined last,
        between.addOp (.concat 1) (List.replicate groups one.id) = .ok (joined, last) ∧
          joint.shape = joined.shape ∧ joint.elementType = joined.elementType := by
  constructor
  · constructor
    · rintro ⟨joint, after, added⟩
      obtain ⟨⟨_, slides⟩, _⟩ := (addOp_groupConvolution whole).1 added
      exact ⟨_, _, (addOp_convolution part).2 ⟨⟨rfl, slides⟩, rfl⟩⟩
    · rintro ⟨one, between, added⟩
      obtain ⟨⟨_, slides⟩, _⟩ := (addOp_convolution part).1 added
      exact ⟨_, _, (addOp_groupConvolution whole).2 ⟨⟨rfl, slides⟩, rfl⟩⟩
  · intro joint after one between added added'
    obtain ⟨_, pushed⟩ := (addOp_groupConvolution whole).1 added
    obtain ⟨_, pushed'⟩ := (addOp_convolution part).1 added'
    cases pushed
    cases pushed'
    exact ⟨_, _, addOp_concat_copies (node?_push_self _ _ _ _) rfl some_groups, rfl, rfl⟩

/-- An image of six channels with a filter for three groups of two, and a third of that image with the
filter of one group. -/
def imagesAndFilters : Graph :=
  afterCalls [.parameter .f16 [1, 6, 5, 7], .parameter .f32 [3, 4, 2, 3, 2],
    .parameter .f16 [1, 2, 5, 7], .parameter .f32 [4, 2, 3, 2]]

theorem groupConvolution_joins_groups_three :
    imagesAndFilters.Convolves [0, 1] [1, 6, 5, 7] [3, 4, 2, 3, 2] .f16 ∧
      imagesAndFilters.Convolves [2, 3] [1, 2, 5, 7] [4, 2, 3, 2] .f16 ∧
      ∃ joint after one between joined last,
        imagesAndFilters.addOp (.groupConvolution ⟨⟨2, 3⟩, ⟨1, 2⟩, .valid⟩) [0, 1] =
          .ok (joint, after) ∧
        imagesAndFilters.addOp (.convolution ⟨⟨2, 3⟩, ⟨1, 2⟩, .valid⟩) [2, 3] = .ok (one, between) ∧
        between.addOp (.concat 1) (List.replicate 3 one.id) = .ok (joined, last) ∧
        joint.shape = [1, 12, 2, 2] ∧ joined.shape = [1, 12, 2, 2] := by
  have whole : imagesAndFilters.Convolves [0, 1] [1, 3 * 2, 5, 7] [3, 4, 2, 3, 2] .f16 :=
    ⟨_, _, .cons rfl (.cons rfl .nil), ⟨rfl, rfl⟩, rfl⟩
  have part : imagesAndFilters.Convolves [2, 3] [1, 2, 5, 7] [4, 2, 3, 2] .f16 :=
    ⟨_, _, .cons rfl (.cons rfl .nil), ⟨rfl, rfl⟩, rfl⟩
  have succeeds : (imagesAndFilters.addOp (.groupConvolution ⟨⟨2, 3⟩, ⟨1, 2⟩, .valid⟩)
      [0, 1]).toOption.bind (fun added => some added.1.shape) = some [1, 12, 2, 2] := by decide
  obtain ⟨⟨joint, after⟩, added, shape⟩ := exists_of_toOption_bind succeeds
  obtain ⟨alike, joins⟩ := groupConvolution_joins_groups (by decide) whole part
  obtain ⟨one, between, added'⟩ := alike.1 ⟨joint, after, added⟩
  obtain ⟨joined, last, added'', same, _⟩ := joins joint after one between added added'
  have shown : joint.shape = [1, 12, 2, 2] := Option.some.inj shape
  exact ⟨whole, part, joint, after, one, between, joined, last, added, added', added'', shown,
    same ▸ shown⟩

end Graph

end PartitionLowering
