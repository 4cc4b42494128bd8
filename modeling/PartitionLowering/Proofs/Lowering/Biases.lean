import PartitionLowering.Proofs.Engine.Broadcasting
import PartitionLowering.Proofs.Engine.Inference
import PartitionLowering.Proofs.Lowering.Additions
import PartitionLowering.Proofs.Lowering.WeightRoutes

/-!
The bias of a convolution.  It is brought to the channels of the convolution and added, and either of the
two may stretch: a convolution of one channel takes on as many as the bias has.  Main statement:
`biased_convolution`, on what a node with a bias leaves when its lowering succeeds.
-/

set_option autoImplicit false

namespace PartitionLowering

/-! ## Convolutions of a graph -/

theorem Op.working_isConvolution : Op.Working Op.isConvolution := by
  intro op arranges
  cases op <;> first
    | rfl
    | cases arranges

namespace Graph

def convolutionsFrom (graph : Graph) (start : Nat) : List Node :=
  (graph.nodes.drop start).filter fun node => node.op.isConvolution

theorem Brings.convolutions {before after : Graph} {convolutions : List Node}
    (brings : before.Brings Op.isConvolution after convolutions) :
    after.convolutionsFrom before.size = convolutions :=
  brings.brought

end Graph

theorem exists_image_of_convolution {op : Op} {nodes : List Node} {type : OutputType}
    (convolves : op.isConvolution = true) (inferred : op.infer nodes = .ok type) :
    ∃ batch channels height width, type.1 = [batch, channels, height, width] := by
  cases op with
  | convolution attributes =>
    obtain ⟨_, _, _, _, _, _, _, _, _, shape⟩ := Inference.convolution_spatial inferred
    exact ⟨_, _, _, _, shape⟩
  | groupConvolution attributes =>
    obtain ⟨_, _, _, _, _, _, _, _, _, _, shape⟩ := Inference.groupConvolution_spatial inferred
    exact ⟨_, _, _, _, shape⟩
  | convolutionBackpropData attributes =>
    obtain ⟨_, _, _, _, _, _, _, _, _, _, shape⟩ := Inference.transposedConvolution_spatial inferred
    exact ⟨_, _, _, _, shape⟩
  | _ => cases convolves

/-! ## Steps that succeed -/

section Steps

variable {draft after : Draft}

/-- A convolution is emitted: it gives an image. -/
theorem brings_of_convolution {op : Op} (convolves : op.isConvolution = true) {inputs : List NodeId}
    {node : Node} (ran : Emit.op op inputs draft = .ok node after) :
    draft.graph.Brings Op.isConvolution after.graph [node] ∧ after.graph.node? node.id = some node ∧
      ∃ batch channels height width, node.shape = [batch, channels, height, width] := by
  obtain ⟨type, inferred, rfl, graph⟩ := of_op ran
  have brings := draft.graph.brings_push Op.isConvolution op inputs type
  rw [convolves, if_pos rfl] at brings
  obtain ⟨_, _, typed⟩ := Graph.infer_eq_ok.1 inferred
  rw [graph]
  exact ⟨brings, Graph.node?_push_self _ _ _ _, exists_image_of_convolution convolves typed⟩

end Steps

/-! ## Fused parts -/

section Fused

variable {draft after : Draft}

/-- An activation keeps the shape. -/
theorem of_activate_run {id result : NodeId} {activation : Activation} {node : Node}
    (held : draft.graph.node? id = some node)
    (ran : Fusion.activate id activation draft = .ok result after) :
    draft.graph.Brings Op.isConvolution after.graph [] ∧
      ∃ last, after.graph.node? result = some last ∧ last.shape = node.shape := by
  obtain ⟨op?, known, ran⟩ := run_lift_bind_eq_ok.1 ran
  cases op? with
  | none =>
    cases ran
    exact ⟨.refl _, node, held, rfl⟩
  | some op =>
    obtain ⟨last, _, applied, ran⟩ := run_bind_eq_ok.1 ran
    cases ran
    obtain ⟨same, plain⟩ := Typing.infer_activation known node.outputType
    obtain ⟨brings, found, inferred⟩ := brings_of_op Op.isConvolution plain applied
    have kept : op.infer [node] = op.infer [.ofType node.outputType] := by
      apply Op.infer_congr op (.cons rfl .nil)
      intro position asked
      cases position with
      | zero => exact absurd (pos_of_integerPositions asked) (Nat.lt_irrefl 0)
      | succ position => rfl
    obtain ⟨_, first, typed⟩ := Graph.infer_single_eq_ok.1 inferred
    cases first.symm.trans held
    rw [kept, same] at typed
    have types := Except.ok.inj typed
    exact ⟨brings, last, found, congrArg Prod.fst types.symm⟩

/-- A reshape to a bias pattern gives the shape that the pattern tells. -/
theorem shape_of_biasPattern {graph : Graph} {bias pattern : NodeId} {rank : Nat} {channels : Int32}
    {type : OutputType} (positive : 0 < channels)
    (read : graph.integers? pattern = some ((Fusion.biasPattern rank channels).map Int32.toInt))
    (inferred : graph.infer (.reshape true) [bias, pattern] = .ok type) :
    type.1 = biasShape rank channels := by
  obtain ⟨constant, held, integers⟩ := Option.bind_eq_some_iff.1 read
  obtain ⟨_, _, _, second, typed⟩ := Graph.infer_pair_eq_ok.1 inferred
  cases second.symm.trans held
  simp only [Op.infer, Inference.reshape, Inference.twoInputs, Inference.integersAt, integers,
    ok_bind, bind_eq_ok] at typed
  obtain ⟨shape, reshaped, same⟩ := typed
  cases same
  exact Shape.reshape_plain_eq_ok (plain_biasPattern rank positive) reshaped

theorem broadcast_of_add {graph : Graph} {lhs rhs : NodeId} {first second : Node} {type : OutputType}
    (held : graph.node? lhs = some first) (held' : graph.node? rhs = some second)
    (inferred : graph.infer .add [lhs, rhs] = .ok type) :
    Shape.broadcast? first.shape second.shape = some type.1 := by
  obtain ⟨_, _, here, here', typed⟩ := Graph.infer_pair_eq_ok.1 inferred
  cases here.symm.trans held
  cases here'.symm.trans held'
  simp only [Op.infer, Inference.arithmetic, Inference.twoInputs, ok_bind, bind_eq_ok,
    throw_eq_error, error_bind, guard_eq_ok] at typed
  obtain ⟨_, shape, joined, same⟩ := typed
  cases same
  exact Shape.broadcast_eq_ok.1 joined

theorem of_addBias_run {producer node : Node} {bias : NodeId} {channels : Int32} {rest : List Int32}
    (positive : 0 < channels) (held : draft.graph.node? producer.id = some producer)
    (ran : Fusion.addBias producer bias (channels :: rest) draft = .ok node after) :
    draft.graph.Brings Op.isConvolution after.graph [] ∧ after.graph.node? node.id = some node ∧
      Shape.broadcast? producer.shape (biasShape producer.rank channels) = some node.shape := by
  obtain ⟨pattern, first, added, ran⟩ := run_bind_eq_ok.1 ran
  obtain ⟨shaped, second, reshaped, ran⟩ := run_bind_eq_ok.1 ran
  obtain ⟨early, read⟩ := of_int32Constant added
  obtain ⟨brings, found, inferred⟩ := brings_of_op Op.isConvolution rfl reshaped
  obtain ⟨brings', found', inferred'⟩ := brings_of_op Op.isConvolution rfl ran
  have there := (early.trans brings.longer).node? held
  have joined := broadcast_of_add there found inferred'
  have shape : shaped.shape = biasShape producer.rank channels :=
    shape_of_biasPattern positive read inferred
  rw [shape] at joined
  exact ⟨((brings_of_constant Op.working_isConvolution added).trans brings).trans brings', found', joined⟩

end Fused

/-! ## Recipes -/

structure Scope.Channels (scope : Scope) (inputs : List OperandIndex) (position : Nat)
    (channels : Int32) : Prop where
  here : ∃ index, inputs[position]? = some index ∧ 0 ≤ index
  dims : ∀ recipe, scope.dims recipe inputs position = .ok [channels]
  positive : 0 < channels

/-- One convolution was emitted, an image, and the given node is what it and a bias of the given channels
broadcast to. -/
def Draft.Biases (draft after : Draft) (result : NodeId) (channels : Int32) : Prop :=
  ∃ convolution last batch outputs height width, draft.graph.Brings Op.isConvolution after.graph [convolution] ∧
    convolution.shape = [batch, outputs, height, width] ∧ after.graph.node? result = some last ∧
    Shape.broadcast? convolution.shape (biasShape 4 channels) = some last.shape

section Recipes

variable {scope : Scope} {recipe : Recipe} {inputs : List OperandIndex} {draft between after : Draft}
  {result : NodeId} {channels : Int32}

theorem of_addOptionalBias_run {position : Nat} {producer node : Node}
    (given : scope.Channels inputs position channels)
    (held : draft.graph.node? producer.id = some producer)
    (ran : Fusion.addOptionalBias scope recipe inputs position producer draft = .ok node after) :
    draft.graph.Brings Op.isConvolution after.graph [] ∧ after.graph.node? node.id = some node ∧
      Shape.broadcast? producer.shape (biasShape producer.rank channels) = some node.shape := by
  obtain ⟨bias?, looked, ran⟩ := run_lift_bind_eq_ok.1 ran
  obtain ⟨index, here, valid⟩ := given.here
  rw [Scope.optionalInput, here] at looked
  simp only [valid, if_true] at looked
  cases bound : scope.registry.node index with
  | error failure =>
    rw [bound] at looked
    cases looked
  | ok bias =>
    rw [bound] at looked
    cases looked
    obtain ⟨dims, known, ran⟩ := run_lift_bind_eq_ok.1 ran
    cases (given.dims recipe).symm.trans known
    exact of_addBias_run given.positive held ran

/-- The rest of the way from a convolution: its bias and its activation. -/
theorem biases_of_convolution {convolution : Node} {position : Nat} {activation : Activation}
    (brings : draft.graph.Brings Op.isConvolution between.graph [convolution])
    (held : between.graph.node? convolution.id = some convolution)
    (image : ∃ batch outputs height width, convolution.shape = [batch, outputs, height, width])
    (given : scope.Channels inputs position channels)
    (ran : (do
      let biased ← Fusion.addOptionalBias scope recipe inputs position convolution
      Fusion.activate biased.id activation) between = .ok result after) :
    draft.Biases after result channels := by
  obtain ⟨batch, outputs, height, width, shape⟩ := image
  obtain ⟨biased, second, added, ran⟩ := run_bind_eq_ok.1 ran
  obtain ⟨brings', held', joined⟩ := of_addOptionalBias_run given held added
  obtain ⟨brings'', last, found, same⟩ := of_activate_run held' ran
  have rank : convolution.rank = 4 := by rw [Node.rank, shape]; rfl
  rw [rank] at joined
  exact ⟨convolution, last, batch, outputs, height, width, (brings.trans brings').trans brings'',
    shape, found, by rw [same, joined]⟩

theorem biases_conv2d (given : scope.Channels inputs 2 channels) {options : Conv2dOptions}
    (ran : Emission.conv2d scope inputs (.conv2d options) draft = .ok result after) :
    draft.Biases after result channels := by
  obtain ⟨data, _, ran⟩ := run_lift_bind_eq_ok.1 ran
  obtain ⟨filter, _, ran⟩ := run_lift_bind_eq_ok.1 ran
  obtain ⟨ordered, first, turned, ran⟩ := run_bind_eq_ok.1 ran
  obtain ⟨strides, _, ran⟩ := run_lift_bind_eq_ok.1 ran
  obtain ⟨dilations, _, ran⟩ := run_lift_bind_eq_ok.1 ran
  obtain ⟨padMode, _, ran⟩ := run_lift_bind_eq_ok.1 ran
  obtain ⟨convolution, second, emitted, ran⟩ := run_bind_eq_ok.1 ran
  obtain ⟨brings, held, image⟩ := brings_of_convolution rfl emitted
  have early : draft.graph.Brings Op.isConvolution first.graph [] := by
    rw [Emission.convFilter] at turned
    by_cases flagged : scope.isFlagged inputs 1
    · rw [if_pos flagged] at turned
      cases turned
      exact .refl _
    · rw [if_neg flagged] at turned
      obtain ⟨node, _, transposed, turned⟩ := run_bind_eq_ok.1 turned
      cases turned
      exact brings_of_transpose Op.working_isConvolution transposed
  exact biases_of_convolution (early.trans brings) held image given ran

theorem biases_depthwiseConv2d (given : scope.Channels inputs 2 channels)
    {options : DepthwiseConv2dOptions}
    (ran : Emission.depthwiseConv2d scope inputs (.depthwiseConv2d options) draft =
      .ok result after) : draft.Biases after result channels := by
  obtain ⟨data, _, ran⟩ := run_lift_bind_eq_ok.1 ran
  obtain ⟨filter, _, ran⟩ := run_lift_bind_eq_ok.1 ran
  obtain ⟨ordered, first, turned, ran⟩ := run_bind_eq_ok.1 ran
  obtain ⟨dims, _, ran⟩ := run_lift_bind_eq_ok.1 ran
  obtain ⟨count, _, ran⟩ := run_lift_bind_eq_ok.1 ran
  obtain ⟨grouped, _, ran⟩ := run_lift_bind_eq_ok.1 ran
  obtain ⟨pattern, second, added, ran⟩ := run_bind_eq_ok.1 ran
  obtain ⟨shaped, third, reshaped, ran⟩ := run_bind_eq_ok.1 ran
  obtain ⟨strides, _, ran⟩ := run_lift_bind_eq_ok.1 ran
  obtain ⟨dilations, _, ran⟩ := run_lift_bind_eq_ok.1 ran
  obtain ⟨padMode, _, ran⟩ := run_lift_bind_eq_ok.1 ran
  obtain ⟨convolution, fourth, emitted, ran⟩ := run_bind_eq_ok.1 ran
  obtain ⟨brings, held, image⟩ := brings_of_convolution rfl emitted
  have early : draft.graph.Brings Op.isConvolution third.graph [] :=
    ((brings_of_transpose Op.working_isConvolution turned).trans (brings_of_longConstant Op.working_isConvolution added)).trans
      (brings_of_op Op.isConvolution rfl reshaped).1
  exact biases_of_convolution (early.trans brings) held image given ran

theorem of_backpropData_run {inputPosition weightsPosition : Nat} {options : TransposeConvOptions}
    {height width : Int32} {node : Node}
    (ran : Emission.backpropData scope recipe inputs inputPosition weightsPosition options height width
      draft = .ok node after) :
    draft.graph.Brings Op.isConvolution after.graph [node] ∧ after.graph.node? node.id = some node ∧
      ∃ batch channels height width, node.shape = [batch, channels, height, width] := by
  obtain ⟨data, _, ran⟩ := run_lift_bind_eq_ok.1 ran
  obtain ⟨weights, _, ran⟩ := run_lift_bind_eq_ok.1 ran
  obtain ⟨ordered, first, turned, ran⟩ := run_bind_eq_ok.1 ran
  obtain ⟨strides, _, ran⟩ := run_lift_bind_eq_ok.1 ran
  obtain ⟨sizes, second, added, ran⟩ := run_bind_eq_ok.1 ran
  obtain ⟨brings, held, image⟩ := brings_of_convolution rfl ran
  exact ⟨((brings_of_transpose Op.working_isConvolution turned).trans (brings_of_constant Op.working_isConvolution added)).trans brings, held, image⟩

theorem biases_transposeConv (given : scope.Channels inputs 3 channels)
    {options : TransposeConvOptions}
    (ran : Emission.transposeConv scope inputs (.transposeConv options) draft = .ok result after) :
    draft.Biases after result channels := by
  obtain ⟨dims, _, ran⟩ := run_lift_bind_eq_ok.1 ran
  rcases dims with _ | ⟨batch, _ | ⟨height, _ | ⟨width, rest⟩⟩⟩
  · cases ran
  · cases ran
  · cases ran
  · obtain ⟨convolution, first, emitted, ran⟩ := run_bind_eq_ok.1 ran
    obtain ⟨brings, held, image⟩ := of_backpropData_run emitted
    exact biases_of_convolution brings held image given ran

theorem biases_transposeConvBias (given : scope.Channels inputs 2 channels)
    {options : TransposeConvOptions}
    (ran : Emission.transposeConvBias scope inputs (.transposeConv options) draft =
      .ok result after) : draft.Biases after result channels := by
  obtain ⟨dims, _, ran⟩ := run_lift_bind_eq_ok.1 ran
  rcases dims with _ | ⟨_, _ | ⟨rows, _ | ⟨columns, rest⟩⟩⟩
  · cases ran
  · cases ran
  · cases ran
  · obtain ⟨convolution, first, emitted, ran⟩ := run_bind_eq_ok.1 ran
    obtain ⟨brings, held, batch, outputs, height, width, shape⟩ := of_backpropData_run emitted
    obtain ⟨bias, _, ran⟩ := run_lift_bind_eq_ok.1 ran
    obtain ⟨biasDims, known, ran⟩ := run_lift_bind_eq_ok.1 ran
    cases (given.dims .transposeConvBias).symm.trans known
    obtain ⟨last, second, added, ran⟩ := run_bind_eq_ok.1 ran
    cases ran
    obtain ⟨brings', found, joined⟩ := of_addBias_run given.positive held added
    have rank : convolution.rank = 4 := by rw [Node.rank, shape]; rfl
    rw [rank] at joined
    exact ⟨convolution, last, batch, outputs, height, width, brings.trans brings', shape, found, joined⟩

/-- A convolution with a bias that is lowered. -/
theorem Recipe.biases_emit (convolves : recipe.isConvolution = true)
    (given : scope.Channels inputs recipe.biasPosition channels) {options : BuiltinOptions}
    (ran : recipe.emit scope inputs options draft = .ok result after) :
    draft.Biases after result channels := by
  rcases Recipe.convolution_cases convolves with rfl | rfl | rfl | rfl
  · cases options with
    | conv2d options => exact biases_conv2d given ran
    | _ => cases ran
  · cases options with
    | depthwiseConv2d options => exact biases_depthwiseConv2d given ran
    | _ => cases ran
  · cases options with
    | transposeConv options => exact biases_transposeConv given ran
    | _ => cases ran
  · cases options with
    | transposeConv options => exact biases_transposeConvBias given ran
    | _ => cases ran

end Recipes

/-! ## Stretching -/

/-- A bias on the channels of an image leaves its other extents alone. -/
theorem broadcast?_channels (batch outputs height width channels : Nat) :
    Shape.broadcast? [batch, outputs, height, width] [1, channels, 1, 1] =
      (Shape.joinExtents? outputs channels).map fun joined => [batch, joined, height, width] := by
  have pairs : Shape.broadcast? [batch, outputs, height, width] [1, channels, 1, 1] =
      Shape.joinAll? [(batch, 1), (outputs, channels), (height, 1), (width, 1)] := rfl
  have none_left : Shape.joinAll? [] = some [] := rfl
  simp only [pairs, Shape.joinAll?_cons, Shape.joinExtents?_one_right, none_left, Option.bind_some,
    Option.map_some]
  cases Shape.joinExtents? outputs channels <;> rfl

theorem joinExtents?_eq_some {outputs channels joined : Nat} :
    Shape.joinExtents? outputs channels = some joined ↔
      (channels = 1 ∨ channels = outputs ∨ outputs = 1) ∧
        joined = if outputs = 1 then channels else outputs := by
  by_cases single : outputs = 1
  · rw [single, Shape.joinExtents?_one_left]
    simp [eq_comm]
  by_cases one : channels = 1
  · rw [one, Shape.joinExtents?_one_right]
    simp [single, eq_comm]
  rw [Shape.joinExtents?, if_neg single, if_neg one]
  by_cases same : outputs = channels
  · simp [same, eq_comm]
  · simp [same, single, one, Ne.symm same]

/-- Where the lowering of an accepted convolution with a bias succeeds, one convolution has been emitted,
and the output differs from it in its channels at most: a convolution of one channel takes on those of the
bias, and otherwise the bias has one channel or those of the convolution. -/
theorem biased_convolution (id : Int32) (node : ScheduledNode) (recipe : Recipe)
    (tensors : TensorContext) (builder after : Builder) (index : OperandIndex)
    (known : Recipe.ofOpCode node.op = .ok recipe) (convolves : recipe.isConvolution = true)
    (accepted : Support.check node.op node.inputs node.options tensors = .ok ())
    (biased : node.inputs[recipe.biasPosition]? = some index)
    (ran : Builder.lowerNode id node tensors builder = .ok () after) :
    ∃ output result last convolution bias channels batch outputs height width,
      node.outputs.head? = some output ∧ after.registry.node? output = some result ∧
      after.graph.node? result = some last ∧
      after.graph.convolutionsFrom builder.graph.size = [convolution] ∧
      convolution.shape = [batch, outputs, height, width] ∧
      tensors.get? index = some bias ∧ bias.hostShape = [channels] ∧
      (channels = 1 ∨ channels = outputs ∨ outputs = 1) ∧
      last.shape = [batch, if outputs = 1 then channels else outputs, height, width] ∧
      (last.shape = convolution.shape ↔ channels = 1 ∨ channels = outputs) := by
  obtain ⟨output, recipe', result, draft, target, emitted, leaves⟩ := Builder.lowerNode_leaves ran
  obtain ⟨_, head, known'⟩ := Builder.target_eq_ok.1 target
  cases known.symm.trans known'
  obtain ⟨bias, admitted, _, rule⟩ :=
    (accepted_convolution known convolves accepted).each _ _ biased
  obtain ⟨channels, dims⟩ := List.length_eq_one_iff.1 (rule rfl).2
  have given : Scope.Channels ⟨builder.registry, tensors⟩ node.inputs recipe.biasPosition channels := by
    refine ⟨⟨index, biased, admitted.valid⟩, fun recipe => ?_, admitted.positive channels (by simp [dims])⟩
    simp [Scope.dims, Scope.operand, biased, Scope.tensor, admitted.known, dims]
  obtain ⟨convolution, last, batch, outputs, height, width, brings, shape, found, joined⟩ :=
    Recipe.biases_emit convolves given emitted
  have pattern : biasShape 4 channels = [1, channels.toInt.toNat, 1, 1] := rfl
  rw [shape, pattern, broadcast?_channels] at joined
  obtain ⟨_, joins, whole⟩ := Option.map_eq_some_iff.1 joined
  obtain ⟨fits, rfl⟩ := joinExtents?_eq_some.1 joins
  refine ⟨output, result, last, convolution, bias, channels.toInt.toNat, batch, outputs, height, width,
    head, ?_, ?_, ?_, shape, admitted.known, ?_, fits, whole.symm, ?_⟩
  · rw [leaves.registry_eq, Registry.node?_bind_self]
  · rw [leaves.graph_eq, found]
  · rw [leaves.graph_eq]
    exact brings.convolutions
  · rw [Tensor.hostShape, dims]
    rfl
  · rw [← whole, shape]
    by_cases single : outputs = 1
    · simp [single]
    · simp only [single, if_false, true_iff]
      exact fits.imp_right fun other => other.resolve_right single

open RouteExample in
theorem biased_convolution_three_channels :
    ∃ after last convolution, Builder.lowerNode 0 node tensors (withBias .constant) = .ok () after ∧
      after.graph.convolutionsFrom (withBias .constant).graph.size = [convolution] ∧
      (after.registry.node? 3).bind after.graph.node? = some last ∧ last.shape = convolution.shape := by
  have lowered : succeeds (Builder.lowerNode 0 node tensors) (withBias .constant) = true := by
    decide +kernel
  have shapes : ((RouteExample.after (Builder.lowerNode 0 node tensors)
      (withBias .constant)).graph.convolutionsFrom (withBias .constant).graph.size).map Node.shape =
        [[1, 3, 5, 3]] := by decide +kernel
  obtain ⟨output, result, last, convolution, tensor, channels, _, outputs, _, _, head, bound, found, one,
    shape, known, dims, _, _, same⟩ :=
    biased_convolution 0 node .conv2d tensors (withBias .constant) _ 2 rfl rfl (by decide) rfl
      (run_eq_after lowered)
  cases head
  cases known
  rw [one, List.map_singleton, shape] at shapes
  cases shapes
  cases dims
  exact ⟨_, last, convolution, run_eq_after lowered, one, by rw [bound, Option.bind_some, found],
    same.2 (.inr rfl)⟩

namespace StretchExample

def filter : Tensor := .constantFloat32 [1, 1, 2, 2] [1, 2, 3, 4]

def bias : Tensor := .constantFloat32 [5] [1, 2, 3, 4, 5]

def tensors : TensorContext := .ofList [(0, RouteExample.image), (1, filter), (2, bias)]

def builder : Builder :=
  RouteExample.after (Builder.registerConstant bias 2)
    (RouteExample.after (Builder.registerConstant filter 1) RouteExample.start)

def lowering : Build Unit := Builder.lowerNode 0 RouteExample.node tensors

end StretchExample

open StretchExample in
/-- A convolution of one channel takes on the five of its bias. -/
theorem bias_stretches_convolution :
    Support.check RouteExample.node.op RouteExample.node.inputs RouteExample.node.options tensors =
        .ok () ∧
      RouteExample.succeeds lowering builder = true ∧
      ((RouteExample.after lowering builder).graph.convolutionsFrom builder.graph.size).map
        Node.shape = [[1, 1, 5, 3]] ∧
      (((RouteExample.after lowering builder).registry.node? 3).bind
        (RouteExample.after lowering builder).graph.node?).map Node.shape = some [1, 5, 5, 3] := by
  decide +kernel

end PartitionLowering
