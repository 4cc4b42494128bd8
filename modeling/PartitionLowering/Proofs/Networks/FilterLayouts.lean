import PartitionLowering.Proofs.Lowering.WeightRoutes
import PartitionLowering.Proofs.Networks.Exchange
import PartitionLowering.Proofs.Networks.SingleNode

/-!
The layout in which the filter of a convolution reaches the engine.  An operand that was passed on from
weights stands in the host's layout, and one passed on from a graph input in the engine's
(`Layered.stands`); the convolution turns a filter unless its operand was itself a graph input.  So the
filter comes in the engine's order exactly where these two agree (`conv2d_filter_layout`).
-/

set_option autoImplicit false

namespace PartitionLowering

/-! ## Operands that are passed on -/

/-- A node that works on its first operand element by element and keeps its shape. -/
def ScheduledNode.PassesOn (node : ScheduledNode) : Prop :=
  ∃ operator ∈ [BuiltinOperator.relu, .relu6, .tanh, .logistic, .hardSwish, .dequantize],
    node.op = .builtin operator

instance (node : ScheduledNode) : Decidable node.PassesOn :=
  inferInstanceAs (Decidable (∃ _ ∈ _, _))

namespace Host

/-- What a node makes of the sources of operands: its first output comes from where its first input does,
if the node passes that on. -/
def passOn (sources : OperandIndex → Option OperandIndex) (node : ScheduledNode) :
    OperandIndex → Option OperandIndex := fun index =>
  if node.outputs.head? = some index then
    if node.PassesOn then node.inputs.head?.bind sources else none
  else sources index

/-- The operand that was given and from which another one is passed on by nodes that run in order. -/
def source? (nodes : List ScheduledNode) : OperandIndex → Option OperandIndex :=
  nodes.foldl passOn some

variable {nodes : List ScheduledNode} {node : ScheduledNode} {index source : OperandIndex}

theorem source?_snoc : source? (nodes ++ [node]) = passOn (source? nodes) node := by
  rw [source?, List.foldl_append]
  rfl

theorem source?_of_unwritten (unwritten : ¬Written nodes index) : source? nodes index = some index := by
  induction nodes using List.reverseRecOn with
  | nil => rfl
  | append_singleton nodes node ih =>
    rw [written_append_singleton, not_or] at unwritten
    rw [source?_snoc, passOn, if_neg unwritten.2]
    exact ih unwritten.1

end Host

section Passing

variable {scope : Scope} {graph : Graph} {node : ScheduledNode} {recipe : Recipe} {type : OutputType}
  {uses : List FilterUse}

theorem shape_of_unary {op : Op}
    (kept : ∀ data : Node, op.infer [data] = .ok type → type.1 = data.shape)
    (told : (Typing.unary scope graph node.inputs recipe op).run [] = .ok (type, uses)) :
    ∃ data, Typing.input scope graph node.inputs recipe 0 = .ok data ∧ type.1 = data.shape := by
  obtain ⟨data, read, applied⟩ := Typing.lift_bind_run_eq_ok.1 told
  exact ⟨data, read, kept data (Typing.op_run_eq_ok.1 applied).1⟩

theorem shape_of_passesOn (passes : node.PassesOn) (known : Recipe.ofOpCode node.op = .ok recipe)
    (told : (recipe.typing scope graph node.inputs node.options).run [] = .ok (type, uses)) :
    ∃ data, Typing.input scope graph node.inputs recipe 0 = .ok data ∧ type.1 = data.shape := by
  have kept : ∀ op ∈ [Op.relu, .tanh, .sigmoid, .hSwish, .clamp 0 6, .convert .f32], ∀ data : Node,
      op.infer [data] = .ok type → type.1 = data.shape := by
    intro op member data inferred
    simp only [List.mem_cons, List.not_mem_nil, or_false] at member
    rcases member with rfl | rfl | rfl | rfl | rfl | rfl
    all_goals
      simp only [Op.infer, Inference.elementwise, Inference.clamp, Inference.convert, Inference.oneInput,
        ok_bind, throw_eq_error, error_bind, guard_eq_ok, pure_eq_ok, Except.ok.injEq] at inferred
    all_goals first
      | rw [← inferred]
      | rw [← inferred.2]
  obtain ⟨operator, member, op⟩ := passes
  rw [op] at known
  simp only [List.mem_cons, List.not_mem_nil, or_false] at member
  rcases member with rfl | rfl | rfl | rfl | rfl | rfl
  all_goals
    cases known
    exact shape_of_unary (kept _ (by simp)) told

end Passing

/-! ## Layouts of operands -/

/-- The shape in which an operand that was given comes to stand. -/
def Tensor.standingShape (tensor : Tensor) : Shape :=
  if tensor.allocation = .mmapRo then tensor.hostShape else Layout.engineShape tensor.hostShape

def Graph.Shaped (graph : Graph) (id : NodeId) (shape : Shape) : Prop :=
  ∃ node, graph.node? id = some node ∧ node.shape = shape

theorem Graph.Extends.shaped {graph longer : Graph} (grown : graph.Extends longer) {id : NodeId}
    {shape : Shape} (shaped : graph.Shaped id shape) : longer.Shaped id shape := by
  obtain ⟨node, found, same⟩ := shaped
  exact ⟨node, grown.node? found, same⟩

namespace Builder

def Stands (builder : Builder) (sources : OperandIndex → Option OperandIndex) (source : OperandIndex)
    (shape : Shape) : Prop :=
  ∀ index id, sources index = some source → builder.registry.node? index = some id →
    builder.graph.Shaped id shape

variable {builder after : Builder} {sources : OperandIndex → Option OperandIndex}
  {index source : OperandIndex} {id : NodeId} {shape : Shape} {tensors : TensorContext}

/-- One operand comes to stand anew. -/
theorem Stands.bind (stands : builder.Stands sources source shape)
    {sources' : OperandIndex → Option OperandIndex}
    (grown : builder.graph.Extends after.graph)
    (bind : ∀ other, after.registry.node? other = (builder.registry.bind index id).node? other)
    (same : ∀ other, other ≠ index → sources' other = sources other)
    (shows' : sources' index = some source → after.graph.Shaped id shape) :
    after.Stands sources' source shape := by
  intro other id' comes held
  rw [bind] at held
  by_cases here : other = index
  · rw [here, Registry.node?_bind_self] at held
    cases held
    exact shows' (here ▸ comes)
  · rw [Registry.node?_bind_of_ne _ _ _ here] at held
    exact grown.shaped (stands other id' (same other here ▸ comes) held)

theorem Stands.lowerNode (stands : builder.Stands sources source shape)
    (live : builder.registry.Live builder.graph) {node : ScheduledNode}
    (ran : Builder.lowerNode node.id node tensors builder = .ok () after) :
    after.Stands (Host.passOn sources node) source shape := by
  obtain ⟨output, recipe, result, draft, known, emitted, leaves⟩ := lowerNode_leaves ran
  obtain ⟨_, written, found⟩ := target_eq_ok.1 known
  obtain ⟨type, uses, told, grows, held, there, typed⟩ := (ends_emit_of_live live).ok_of_run emitted
  have grown : builder.graph.Extends after.graph := by
    rw [leaves.graph_eq]
    exact grows.longer
  refine stands.bind grown (fun other => by rw [leaves.registry_eq]) ?_ ?_
  · intro other apart
    have unwritten : node.outputs.head? ≠ some other := by
      rw [written]
      exact fun same => apart (Option.some.inj same).symm
    rw [Host.passOn, if_neg unwritten]
  · intro comes
    rw [Host.passOn, if_pos written] at comes
    by_cases passes : node.PassesOn
    · rw [if_pos passes] at comes
      obtain ⟨data, first, from_source⟩ := Option.bind_eq_some_iff.1 comes
      obtain ⟨read, looked, kept⟩ := shape_of_passesOn passes found told
      obtain ⟨_, id, here, _, bound, read'⟩ := Scope.reads_of_input looked
      rw [List.head?_eq_getElem?, here] at first
      cases first
      obtain ⟨_, read'', standing⟩ := stands data id from_source bound
      cases read'.symm.trans read''
      refine ⟨held, ?_, ?_⟩
      · rwa [leaves.graph_eq]
      · rw [← standing, ← kept, ← typed]
        rfl
    · rw [if_neg passes] at comes
      cases comes

end Builder

/-- A builder under way: the operands that the host feeds are flagged, and whatever comes from one
operand stands as that one does. -/
structure Layered (partition : Partition) (tensors : TensorContext) (source : OperandIndex)
    (tensor : Tensor) (earlier : List ScheduledNode) (asked given : List OperandIndex)
    (builder : Builder) : Prop where
  follows : Follows partition tensors earlier asked given builder
  flags : ∀ index, builder.registry.isFlagged index = true ↔ index ∈ given
  stands : builder.Stands (Host.source? earlier) source tensor.standingShape

section Layering

variable {partition : Partition} {tensors : TensorContext} {source index : OperandIndex}
  {tensor : Tensor} {earlier : List ScheduledNode} {asked given more : List OperandIndex}
  {builder after : Builder}

theorem layered_empty : Layered partition tensors source tensor [] [] [] {} :=
  ⟨⟨Builder.keyed_empty, tracks_empty⟩, fun _ => ⟨nofun, nofun⟩, nofun⟩

/-- An operand without a node has not been written, and is its own source. -/
theorem Layered.source_eq (layered : Layered partition tensors source tensor earlier asked given builder)
    (unbound : builder.registry.node? index = none) (comes : Host.source? earlier index = some source) :
    index = source := by
  have unwritten : ¬Host.Written earlier index := by
    intro written
    obtain ⟨id, held⟩ := layered.follows.tracks.written index written
    rw [unbound] at held
    cases held
  rw [Host.source?_of_unwritten unwritten] at comes
  exact Option.some.inj comes

section Registering

variable (layered : Layered partition tensors source tensor earlier asked given builder)
  (known : tensors.get? source = some tensor) (unbound : builder.registry.node? index = none)
  {registered : Tensor} (known' : tensors.get? index = some registered)

include layered known unbound known'

/-- Weights stand in the host's layout. -/
theorem Layered.weights (kept : registered.allocation = .mmapRo)
    (ran : Builder.registerConstant registered index builder = .ok () after) :
    (∀ other, after.registry.isFlagged other = builder.registry.isFlagged other) ∧
      after.Stands (Host.source? earlier) source tensor.standingShape ∧
      builder.graph.Extends after.graph := by
  obtain ⟨elementType, shape, data, _, _, shaped, moves, found⟩ := Builder.registerConstant_eq_ok ran
  refine ⟨fun other => by rw [moves.registry_eq, Registry.isFlagged_bind], ?_, moves.longer⟩
  refine layered.stands.bind moves.longer (fun other => by rw [moves.registry_eq])
    (fun _ _ => rfl) ?_
  intro comes
  cases layered.source_eq unbound comes
  rw [known] at known'
  cases known'
  rw [Tensor.standingShape, if_pos kept]
  exact ⟨_, found, (Layout.shape_eq_ok.1 shaped).2⟩

/-- An image that the host feeds is flagged, and its channels are brought forward. -/
theorem Layered.input (image : tensor.dims.length = 4) (mutable : registered.allocation ≠ .mmapRo)
    (ran : Builder.registerInput registered index builder = .ok () after) :
    (∀ other, after.registry.isFlagged other = (decide (other = index) ||
        builder.registry.isFlagged other)) ∧
      after.Stands (Host.source? earlier) source tensor.standingShape ∧
      builder.graph.Extends after.graph := by
  obtain ⟨elementType, shape, id, draft, typed, converted, leaves⟩ := Builder.registerInput_leaves ran
  have grown : builder.graph.Extends after.graph := by
    rw [leaves.graph_eq]
    exact Builder.extends_of_converted converted
  have bind : ∀ other,
      after.registry.node? other = (builder.registry.bind index id).node? other := by
    intro other
    rw [leaves.registry_eq, Registry.node?_flag]
  refine ⟨fun other => ?_, layered.stands.bind grown bind (fun _ _ => rfl) ?_, grown⟩
  · rw [leaves.registry_eq, Registry.isFlagged_flag, Registry.isFlagged_bind]
  · intro comes
    cases layered.source_eq unbound comes
    rw [known] at known'
    cases known'
    obtain ⟨_, _, _, _, shaped⟩ := Builder.inputType_eq_ok.1 typed
    obtain ⟨_, rfl⟩ := Layout.shape_eq_ok.1 shaped
    obtain ⟨id', _, ran', moves, node, found, type⟩ :=
      Builder.registerInput_ok typed (.inl image) builder
    rw [ran] at ran'
    cases ran'
    -- both say which node the operand has
    have same := bind source
    rw [moves.registry_eq, Registry.node?_flag, Registry.node?_bind_self,
      Registry.node?_bind_self] at same
    cases same
    rw [Tensor.standingShape, if_neg mutable]
    exact ⟨node, found, congrArg Prod.fst type⟩

end Registering

theorem Layered.materialize
    (layered : Layered partition tensors source tensor earlier asked given builder)
    (known : tensors.get? source = some tensor) (image : tensor.dims.length = 4)
    (first : index ∉ asked → partition.nodesBefore index = earlier)
    (ran : partition.materialize tensors index builder = .ok more after) :
    Layered partition tensors source tensor earlier (asked ++ [index]) (given ++ more) after ∧
      builder.graph.Extends after.graph := by
  have follows := layered.follows.materialize first ran
  cases materialize_eq_ok.1 ran with
  | bound _ =>
    rw [List.append_nil] at follows ⊢
    exact ⟨⟨follows, layered.flags, layered.stands⟩, .refl _⟩
  | foreign _ _ _ _ =>
    rw [List.append_nil] at follows ⊢
    exact ⟨⟨follows, layered.flags, layered.stands⟩, .refl _⟩
  | weights unbound known' kept ran =>
    rw [List.append_nil] at follows ⊢
    obtain ⟨flags, stands, grown⟩ := layered.weights known unbound known' kept ran
    exact ⟨⟨follows, fun other => by rw [flags, layered.flags], stands⟩, grown⟩
  | input unbound known' mutable member ran =>
    obtain ⟨flags, stands, grown⟩ := layered.input known unbound known' image mutable ran
    refine ⟨⟨follows, fun other => ?_, stands⟩, grown⟩
    rw [flags, Bool.or_eq_true, decide_eq_true_iff, layered.flags, List.mem_append,
      List.mem_singleton, or_comm]

theorem Layered.materializeAll {indices : List OperandIndex} (known : tensors.get? source = some tensor)
    (image : tensor.dims.length = 4)
    (layered : Layered partition tensors source tensor earlier asked given builder)
    (first : ∀ index ∈ indices, index ∉ asked → partition.nodesBefore index = earlier)
    (ran : partition.materializeAll tensors indices builder = .ok more after) :
    Layered partition tensors source tensor earlier (asked ++ indices) (given ++ more) after ∧
      builder.graph.Extends after.graph := by
  refine (materializeAll_keeps
    (fun asked' given' here => asked ⊆ asked' ∧
      Layered partition tensors source tensor earlier asked' given' here ∧
      builder.graph.Extends here.graph)
    ?_ asked given ⟨List.Subset.refl _, layered, .refl _⟩ ran).2
  rintro index member asked' given' more' between next ⟨longer, layered', grown⟩ ran
  obtain ⟨layered'', grown'⟩ := layered'.materialize known image
    (fun fresh => first index member fun seen => fresh (longer seen)) ran
  exact ⟨List.subset_append_of_subset_left _ longer, layered'', grown.trans grown'⟩

abbrev LayeredNodes (partition : Partition) (tensors : TensorContext) (source : OperandIndex)
    (tensor : Tensor) (earlier : List ScheduledNode) (given : List OperandIndex) (builder : Builder) :
    Prop :=
  Layered partition tensors source tensor earlier (earlier.flatMap ScheduledNode.neededInputs) given
    builder

/-- The operands of the next node are registered. -/
theorem LayeredNodes.registered {node : ScheduledNode} {later : List ScheduledNode}
    (layered : LayeredNodes partition tensors source tensor earlier given builder)
    (known : tensors.get? source = some tensor) (image : tensor.dims.length = 4)
    (split : partition.nodes = earlier ++ node :: later)
    (ran : partition.materializeAll tensors node.neededInputs builder = .ok more after) :
    Layered partition tensors source tensor earlier
        (earlier.flatMap ScheduledNode.neededInputs ++ node.neededInputs) (given ++ more) after ∧
      builder.graph.Extends after.graph :=
  layered.materializeAll known image
    (fun _ needed fresh => Partition.nodesBefore_eq split needed fresh) ran

theorem LayeredNodes.lowerNode {node : ScheduledNode} {later : List ScheduledNode}
    (layered : LayeredNodes partition tensors source tensor earlier given builder)
    (known : tensors.get? source = some tensor) (image : tensor.dims.length = 4)
    (split : partition.nodes = earlier ++ node :: later)
    (ran : partition.lowerNode tensors node builder = .ok more after) :
    LayeredNodes partition tensors source tensor (earlier ++ [node]) (given ++ more) after ∧
      builder.graph.Extends after.graph := by
  have follows := FollowsNodes.lowerNode layered.follows split ran
  obtain ⟨_, between, registered, lowered⟩ := partition_lowerNode_eq_ok.1 ran
  obtain ⟨supplied, grown⟩ := layered.registered known image split registered
  have live := supplied.follows.keyed.live
  obtain ⟨output, recipe, result, draft, _, emitted, leaves⟩ := Builder.lowerNode_leaves lowered
  have gains := Recipe.gains_of_emit live emitted
  refine ⟨⟨follows, ?_, ?_⟩, ?_⟩
  · intro index
    rw [leaves.registry_eq, Registry.isFlagged_bind]
    exact supplied.flags index
  · rw [Host.source?_snoc]
    exact supplied.stands.lowerNode live lowered
  · rw [leaves.graph_eq]
    exact grown.trans gains.longer

theorem LayeredNodes.lowerNodes {later rest : List ScheduledNode}
    (layered : LayeredNodes partition tensors source tensor earlier given builder)
    (known : tensors.get? source = some tensor) (image : tensor.dims.length = 4)
    (split : partition.nodes = earlier ++ (later ++ rest))
    (ran : partition.lowerNodes tensors later builder = .ok more after) :
    LayeredNodes partition tensors source tensor (earlier ++ later) (given ++ more) after ∧
      builder.graph.Extends after.graph := by
  refine lowerNodes_keeps
    (fun nodes given here => LayeredNodes partition tensors source tensor nodes given here ∧
      builder.graph.Extends here.graph) ?_ earlier given rfl ⟨layered, .refl _⟩ ran
  rintro before later' node given more between next here ⟨layered, grown⟩ ran
  have split' : partition.nodes = before ++ node :: (later' ++ rest) := by
    rw [split, ← List.append_assoc, here, List.append_assoc, List.cons_append]
  obtain ⟨layered', grown'⟩ := layered.lowerNode known image split' ran
  exact ⟨layered', grown.trans grown'⟩

end Layering

/-! ## Filters -/

section Filters

variable {scope : Scope} {graph : Graph} {inputs : List OperandIndex} {recipe : Recipe}
  {type producer : OutputType} {uses all : List FilterUse}

theorem uses_of_addBias {bias : Node} {dims : List Int32}
    (told : (Typing.addBias producer bias dims).run uses = .ok (type, all)) : all = uses := by
  cases dims with
  | nil => cases told
  | cons channels rest =>
    obtain ⟨reshaped, _, told⟩ := Typing.op_bind_run_eq_ok.1 told
    rw [Typing.filterUses_of_plain rfl, List.append_nil] at told
    exact ((Typing.plain_op_run_eq_ok rfl).1 told).2

theorem uses_of_addOptionalBias {position : Nat}
    (told : (Typing.addOptionalBias scope graph inputs recipe position producer).run uses =
      .ok (type, all)) : all = uses := by
  obtain ⟨bias?, _, told⟩ := Typing.lift_bind_run_eq_ok.1 told
  cases bias? with
  | none => exact (Typing.pure_run_eq_ok.1 told).2
  | some bias =>
    obtain ⟨dims, _, told⟩ := Typing.lift_bind_run_eq_ok.1 told
    exact uses_of_addBias told

theorem convFilter_of_image {filter : Node} (image : filter.shape.length = 4) :
    Typing.convFilter scope inputs filter =
      pure (if scope.isFlagged inputs 1 then filter.shape else filter.shape.channelsFirst,
        filter.elementType) := by
  rw [Typing.convFilter]
  by_cases flagged : scope.isFlagged inputs 1
  · rw [if_pos flagged, if_pos flagged, Node.outputType]
  · have order : Layout.toEngineOrder.map Int64.toInt = [0, 3, 1, 2] := by decide
    obtain ⟨outer, height, width, inner, shape⟩ := Shape.exists_image image
    rw [if_neg flagged, if_neg flagged]
    apply transpose_eq
    rw [shape, order, Shape.permute_toEngine, Shape.channelsFirst]

/-- A convolution is one operation, on the filter as it stands where its operand is flagged, and turned
where it is not. -/
theorem uses_of_conv2d {options : Conv2dOptions}
    (told : (Typing.conv2d scope graph inputs (.conv2d options)).run [] = .ok (type, uses)) :
    ∃ filter, Typing.input scope graph inputs .conv2d 1 = .ok filter ∧
      (filter.shape.length = 4 → ∃ attributes, uses = [⟨.convolution attributes,
        some (if scope.isFlagged inputs 1 then filter.shape else filter.shape.channelsFirst)⟩]) := by
  obtain ⟨data, _, told⟩ := Typing.lift_bind_run_eq_ok.1 told
  obtain ⟨filter, read, told⟩ := Typing.lift_bind_run_eq_ok.1 told
  refine ⟨filter, read, fun image => ?_⟩
  rw [convFilter_of_image image, pure_bind] at told
  obtain ⟨strides, _, told⟩ := Typing.lift_bind_run_eq_ok.1 told
  obtain ⟨dilations, _, told⟩ := Typing.lift_bind_run_eq_ok.1 told
  obtain ⟨padMode, _, told⟩ := Typing.lift_bind_run_eq_ok.1 told
  obtain ⟨convolved, _, told⟩ := Typing.op_bind_run_eq_ok.1 told
  obtain ⟨biased, between, added, told⟩ := Typing.bind_run_eq_ok.1 told
  have same := (Typing.of_activate told).2
  rw [uses_of_addOptionalBias added] at same
  exact ⟨_, same⟩

end Filters

/-- A node of the schedule is lowered in one builder, after the nodes before it and the registration of its
operands, which leaves the other one. -/
def Partition.LowersAt (partition : Partition) (tensors : TensorContext) (earlier : List ScheduledNode)
    (node : ScheduledNode) (before after : Builder) : Prop :=
  ∃ fed between more, partition.lowerNodes tensors earlier {} = .ok fed between ∧
    partition.materializeAll tensors node.neededInputs between = .ok more before ∧
    Builder.lowerNode node.id node tensors before = .ok () after

/-- The shape in which a filter that comes from a tensor reaches the engine. -/
def Partition.filterShape (partition : Partition) (tensors : TensorContext) (filter : OperandIndex)
    (source : Tensor) : Shape :=
  if partition.Feeds tensors filter then source.standingShape else source.standingShape.channelsFirst

theorem filterShape_eq_iff {partition : Partition} {tensors : TensorContext}
    {filter source : OperandIndex} {tensor : Tensor} (known : tensors.get? source = some tensor)
    {outer height width inner : Nat} (dims : tensor.hostShape = [outer, height, width, inner]) :
    partition.filterShape tensors filter tensor = [outer, inner, height, width] ↔
      (IsWeights tensors source ↔ ¬partition.Feeds tensors filter) ∨ height = width ∧ width = inner := by
  have turned : Layout.engineShape tensor.hostShape = [outer, inner, height, width] := by
    rw [dims]
    rfl
  have twice : Shape.channelsFirst [outer, inner, height, width] = [outer, width, inner, height] := rfl
  have once : Shape.channelsFirst [outer, height, width, inner] = [outer, inner, height, width] := rfl
  rw [Partition.filterShape, Tensor.standingShape, turned, dims, isWeights_iff known]
  by_cases kept : tensor.allocation = .mmapRo <;> by_cases fed : partition.Feeds tensors filter
  · simp only [kept, fed, if_true, List.cons.injEq, and_true, true_and, not_true_eq_false, iff_false,
      false_or]
    omega
  · simp [kept, fed, once]
  · simp [kept, fed]
  · simp only [kept, fed, twice, if_false, List.cons.injEq, and_true, true_and, not_false_eq_true,
      iff_true, false_or]
    omega

theorem length_standingShape {tensor : Tensor} (image : tensor.dims.length = 4) :
    tensor.standingShape.length = 4 := by
  have length : tensor.hostShape.length = 4 := by rw [Tensor.hostShape, List.length_map, image]
  rw [Tensor.standingShape]
  by_cases kept : tensor.allocation = .mmapRo
  · rw [if_pos kept, length]
  · rw [if_neg kept, Layout.length_engineShape (Nat.le_of_eq length)]

section Convolutions

variable {partition : Partition} {tensors : TensorContext} {source filter : OperandIndex}
  {tensor : Tensor} {earlier : List ScheduledNode} {asked given : List OperandIndex}
  {builder after : Builder} {node : ScheduledNode}

/-- A flagged operand is one that the host feeds, as far as it has been asked for. -/
theorem Layered.flagged_iff
    (layered : Layered partition tensors source tensor earlier asked given builder)
    (needed : filter ∈ asked) :
    builder.registry.isFlagged filter = true ↔ partition.Feeds tensors filter := by
  rw [layered.flags, layered.follows.tracks.given_eq, List.mem_filter, List.mem_eraseDups,
    decide_eq_true_iff]
  exact and_iff_right needed

/-- A plain convolution over a filter that comes from a tensor of four dims. -/
theorem Layered.convolves
    (layered : Layered partition tensors source tensor earlier asked given builder)
    (image : tensor.dims.length = 4) (op : node.op = .builtin .conv2d)
    (accepted : Support.check node.op node.inputs node.options tensors = .ok ())
    (asks : ∀ index ∈ node.neededInputs, index ∈ asked) (here : node.inputs[1]? = some filter)
    (comes : Host.source? earlier filter = some source)
    (ran : Builder.lowerNode node.id node tensors builder = .ok () after) :
    ∃ attributes, after.graph.filterUsesFrom builder.graph.size =
      [⟨.convolution attributes, some (partition.filterShape tensors filter tensor)⟩] := by
  obtain ⟨output, recipe, result, draft, known, emitted, leaves⟩ := Builder.lowerNode_leaves ran
  obtain ⟨_, _, found⟩ := Builder.target_eq_ok.1 known
  obtain ⟨options, taken⟩ : ∃ options, node.options = .conv2d options :=
    Support.takes_of_check op accepted
  obtain ⟨type, uses, told, grows, _⟩ :=
    (Builder.ends_emit_of_live layered.follows.keyed.live).ok_of_run emitted
  rw [op] at found
  cases found
  rw [taken] at told
  obtain ⟨held, read, used⟩ := uses_of_conv2d told
  obtain ⟨index, id, here', valid, bound, found⟩ := Scope.reads_of_input read
  rw [here] at here'
  cases here'
  obtain ⟨held', found', stands⟩ := layered.stands filter id comes bound
  cases found.symm.trans found'
  obtain ⟨attributes, used⟩ := used (by rw [stands, length_standingShape image])
  have other : node.op ≠ .builtin .transposeConv := by simp [op]
  have needed := asks filter (mem_neededInputs here valid fun same => absurd same other)
  have flag : Scope.isFlagged ⟨builder.registry, tensors⟩ node.inputs 1 = true ↔
      partition.Feeds tensors filter := by
    rw [Scope.isFlagged, here, Option.any_some]
    exact layered.flagged_iff needed
  refine ⟨attributes, ?_⟩
  rw [leaves.graph_eq, Partition.filterShape, ← stands]
  simp only [flag] at used
  exact grows.filterUses.trans used

/-- An operand that no node before writes is fed by the host or is weights. -/
theorem feeds_of_unwritten {later : List ScheduledNode}
    (split : partition.nodes = earlier ++ node :: later) (needed : filter ∈ node.neededInputs)
    (unwritten : ¬Host.Written earlier filter) (member : filter ∈ partition.inputs)
    (mutable : ¬IsWeights tensors filter) : partition.Feeds tensors filter := by
  refine ⟨member, mutable, ?_⟩
  rintro ⟨other, before, written⟩
  rw [Partition.nodesBefore, split, List.takeWhile_append] at before
  split_ifs at before
  · rw [List.takeWhile_cons_of_neg (by simpa [Host.scanned_eq] using needed),
      List.append_nil] at before
    exact unwritten ⟨other, before, written⟩
  · exact unwritten ⟨other, (List.takeWhile_prefix _).subset before, written⟩

end Convolutions

/-- In a lowered partition, a plain convolution over a filter that was passed on from a tensor of host dims
outer, height, width, inner has the filter outer, inner, height, width exactly where either the tensor is
weights or the host feeds the filter's operand, or where the last three extents are one.  So it has for
weights and graph inputs themselves. -/
theorem conv2d_filter_layout (partition : Partition) (tensors : TensorContext) (settings : Settings)
    (lowered : LoweredPartition) (ran : partition.lower tensors settings = .ok lowered)
    (earlier later : List ScheduledNode) (node : ScheduledNode)
    (split : partition.nodes = earlier ++ node :: later) (op : node.op = .builtin .conv2d)
    (filter source : OperandIndex) (here : node.inputs[1]? = some filter)
    (comes : Host.source? earlier filter = some source) (tensor : Tensor)
    (known : tensors.get? source = some tensor) (outer height width inner : Nat)
    (dims : tensor.hostShape = [outer, height, width, inner]) :
    (∃ before after attributes, partition.LowersAt tensors earlier node before after ∧
        after.graph.Extends lowered.model.graph ∧
        after.graph.filterUsesFrom before.graph.size =
          [⟨.convolution attributes, some (partition.filterShape tensors filter tensor)⟩]) ∧
      (partition.filterShape tensors filter tensor = [outer, inner, height, width] ↔
        (IsWeights tensors source ↔ ¬partition.Feeds tensors filter) ∨
          height = width ∧ width = inner) ∧
      (¬Host.Written earlier filter → filter ∈ partition.inputs ∨ IsWeights tensors filter →
        partition.filterShape tensors filter tensor = [outer, inner, height, width]) := by
  have image : tensor.dims.length = 4 := by
    have length := congrArg List.length dims
    rwa [Tensor.hostShape, List.length_map] at length
  obtain ⟨inputs, built, last, ids, lowers, rfl⟩ := lower_eq_ok.1 ran
  have schedule := lowers.lowered
  rw [split] at schedule
  obtain ⟨fed, between, _, early, late, _⟩ := lowerNodes_append_eq_ok.1 schedule
  obtain ⟨_, after, _, here', rest, _⟩ := lowerNodes_cons_eq_ok.1 late
  obtain ⟨accepted, before, registered, lowered'⟩ := partition_lowerNode_eq_ok.1 here'
  have start : LayeredNodes partition tensors source tensor [] [] {} := layered_empty
  obtain ⟨layered, _⟩ := start.lowerNodes known image split early
  obtain ⟨supplied, _⟩ := layered.registered known image split registered
  obtain ⟨layered', _⟩ := layered.lowerNode known image split here'
  obtain ⟨finished, grown⟩ := layered'.lowerNodes known image
    (by rw [split, List.append_assoc, List.append_nil]; rfl) rest
  obtain ⟨_, grown', _⟩ := finished.follows.keyed.resultNodes lowers.results
  obtain ⟨attributes, used⟩ := supplied.convolves image op accepted
    (fun index needed => List.mem_append_right _ needed) here comes lowered'
  refine ⟨⟨before, after, attributes, ⟨fed, between, _, early, registered, lowered'⟩,
    grown.trans grown', used⟩, filterShape_eq_iff known dims, ?_⟩
  intro unwritten given
  rw [Host.source?_of_unwritten unwritten] at comes
  cases comes
  refine (filterShape_eq_iff known dims).2 (.inl ?_)
  by_cases weights : IsWeights tensors filter
  · exact iff_of_true weights fun feeds => feeds.2.1 weights
  · have fed : Recipe.Fed .conv2d node.inputs tensors :=
      accepted_convolution (by rw [op]; rfl) rfl accepted
    obtain ⟨_, admitted, _⟩ := fed.each 1 filter here
    have other : node.op ≠ .builtin .transposeConv := by simp [op]
    have needed := mem_neededInputs here admitted.valid fun same => absurd same other
    have feeds := feeds_of_unwritten split needed unwritten (given.resolve_right weights) weights
    exact iff_of_false weights fun unfed => unfed feeds

namespace FilterExample

def image (dims : List Int32) : Tensor where
  tensorType := .float32
  dims

/-- Operand 1 is passed on through two nodes, the second of which writes its own input. -/
def nodes : List ScheduledNode :=
  [{ id := 0, op := .builtin .relu6, inputs := [1], outputs := [2] },
    { id := 1, op := .builtin .hardSwish, inputs := [2], outputs := [2] }]

def convolution : ScheduledNode where
  id := 2
  op := .builtin .conv2d
  inputs := [0, 2]
  outputs := [3]
  options := .conv2d { padding := .same }

def partition : Partition where
  inputs := [0, 1]
  outputs := [3]
  nodes := nodes ++ [convolution]

def tensors (filter : Tensor) : TensorContext :=
  .ofList [(0, image [1, 5, 7, 3]), (1, filter), (2, image [4, 1, 3, 3]), (3, image [1, 5, 7, 4])]

def weights : Tensor :=
  .constantFloat32 [4, 1, 3, 3] (List.replicate 36 1)

end FilterExample

open FilterExample in
theorem conv2d_filter_layout_weights :
    ∃ lowered, partition.lower (tensors weights) {} = .ok lowered ∧
      Host.source? nodes 2 = some 1 ∧ weights.hostShape = [4, 1, 3, 3] ∧
      ∃ before after attributes, partition.LowersAt (tensors weights) nodes convolution before after ∧
        after.graph.Extends lowered.model.graph ∧
        after.graph.filterUsesFrom before.graph.size =
          [⟨.convolution attributes, some [4, 3, 1, 3]⟩] := by
  have succeeds : (partition.lower (tensors weights) {}).isOk = true := by decide +kernel
  obtain ⟨lowered, ran⟩ := exists_of_isOk succeeds
  have comes : Host.source? nodes 2 = some 1 := by decide
  obtain ⟨⟨before, after, attributes, at_convolution, grown, used⟩, layout, _⟩ :=
    conv2d_filter_layout partition (tensors weights) {} lowered ran nodes [] convolution rfl rfl 2 1 rfl
      comes weights (by decide +kernel) 4 1 3 3 (by decide)
  have unfed : IsWeights (tensors weights) 1 ↔ ¬partition.Feeds (tensors weights) 2 := by
    decide +kernel
  rw [layout.2 (.inl unfed)] at used
  exact ⟨lowered, ran, comes, by decide, before, after, attributes, at_convolution, grown, used⟩

open FilterExample in
/-- A filter that comes from a graph input is turned twice: its height has become its inner extent. -/
theorem passed_filter_is_turned_twice :
    Host.source? nodes 2 = some 1 ∧ 1 ∈ partition.inputs ∧
      (image [4, 1, 3, 3]).hostShape = [4, 1, 3, 3] ∧
      ∃ lowered, partition.lower (tensors (image [4, 1, 3, 3])) {} = .ok lowered ∧
        lowered.model.graph.filterUsesFrom 0 =
          [⟨.convolution ⟨⟨1, 1⟩, ⟨1, 1⟩, .sameUpper⟩, some [4, 3, 3, 1]⟩] := by
  have found : (partition.lower (tensors (image [4, 1, 3, 3])) {}).toOption.bind
      (fun lowered => some (lowered.model.graph.filterUsesFrom 0)) =
        some [⟨.convolution ⟨⟨1, 1⟩, ⟨1, 1⟩, .sameUpper⟩, some [4, 3, 3, 1]⟩] := by
    decide +kernel
  obtain ⟨lowered, ran, used⟩ := exists_of_toOption_bind found
  exact ⟨by decide, by decide, by decide, lowered, ran, Option.some.inj used⟩

end PartitionLowering
