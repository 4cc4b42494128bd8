import PartitionLowering.Proofs.Networks.Exchange
import PartitionLowering.Proofs.Networks.Reshapes

/-!
The extents along which a softmax is taken.  It works along the second axis of its data, wherever that data
comes from.  A graph input stands in the engine's layout, so that its second axis is the host's last one;
what a reshape gives stands as the host has it.  Main statement: `softmax_extents`, on a softmax of a graph
input and on one of a reshaped graph input.
-/

set_option autoImplicit false

namespace PartitionLowering

/-! ## Softmaxes of a graph -/

def Op.isSoftmax : Op → Bool
  | .softmax _ => true
  | _ => false

theorem Op.working_isSoftmax : Op.Working Op.isSoftmax := by
  intro op arranges
  cases op <;> first
    | rfl
    | cases arranges

namespace Graph

def softmaxes (graph : Graph) : List Node :=
  graph.nodes.filter fun node => node.op.isSoftmax

theorem Brings.softmaxes {graph : Graph} {nodes : List Node}
    (brings : Graph.Brings Op.isSoftmax {} graph nodes) : graph.softmaxes = nodes :=
  brings.brought

end Graph

theorem rank_of_infer_softmax {axis : Nat} {data : Node} {type : OutputType}
    (inferred : (Op.softmax axis).infer [data] = .ok type) : axis < data.rank := by
  simp only [Op.infer, Inference.softmax, Inference.oneInput, ok_bind, throw_eq_error, error_bind,
    guard_eq_ok] at inferred
  exact Nat.lt_of_not_le inferred.1

/-! ## Registering operands -/

namespace Builder

structure Registers (kind : Op → Bool) (before after : Builder) : Prop where
  brings : before.graph.Brings kind after.graph []
  kept : ∀ index id, before.registry.node? index = some id → after.registry.node? index = some id

section Registers

variable {kind : Op → Bool} {builder after : Builder}

theorem Registers.refl (builder : Builder) :
    builder.Registers kind builder :=
  ⟨.refl _, fun _ _ held => held⟩

theorem Registers.trans {first second third : Builder}
    (early : first.Registers kind second) (late : second.Registers kind third) :
    first.Registers kind third :=
  ⟨early.brings.trans late.brings, fun index id held => late.kept index id (early.kept index id held)⟩

/-- One operand is registered, which had no node. -/
theorem registers_of_bind {index : OperandIndex} {id : NodeId}
    (brings : builder.graph.Brings kind after.graph [])
    (unbound : builder.registry.node? index = none)
    (bind : ∀ other, after.registry.node? other = (builder.registry.bind index id).node? other) :
    builder.Registers kind after := by
  refine ⟨brings, fun other id' held => ?_⟩
  have apart : other ≠ index := by
    rintro rfl
    rw [unbound] at held
    cases held
  rw [bind, Registry.node?_bind_of_ne _ _ _ apart, held]

end Registers

end Builder

section Kinds

variable {kind : Op → Bool} (working : Op.Working kind) {partition : Partition}
  {tensors : TensorContext} {builder after : Builder} {index : OperandIndex}
  {given : List OperandIndex}

include working

theorem Builder.brings_of_registerInput {tensor : Tensor}
    (ran : Builder.registerInput tensor index builder = .ok () after) :
    builder.graph.Brings kind after.graph [] := by
  obtain ⟨elementType, shape, id, draft, _, converted, leaves⟩ := Builder.registerInput_leaves ran
  have parameter : builder.graph.Brings kind (builder.withParameter elementType shape).graph [] :=
    builder.graph.brings_nothing_push (working .parameter rfl) [] (shape, elementType)
  rw [leaves.graph_eq]
  exact parameter.trans (Layout.brings_of_toEngine working converted)

theorem Builder.brings_of_registerConstant {tensor : Tensor}
    (ran : Builder.registerConstant tensor index builder = .ok () after) :
    builder.graph.Brings kind after.graph [] := by
  obtain ⟨elementType, shape, data, _, _, leaves⟩ := Builder.registerConstant_leaves ran
  rw [leaves.graph_eq]
  exact builder.graph.brings_nothing_push (working _ rfl) [] (shape, elementType)

theorem registers_of_materialize
    (ran : partition.materialize tensors index builder = .ok given after) :
    builder.Registers kind after := by
  cases materialize_eq_ok.1 ran with
  | bound => exact .refl _
  | weights unbound _ _ ran =>
    obtain ⟨_, _, _, _, _, leaves⟩ := Builder.registerConstant_leaves ran
    have bind : ∀ other, after.registry.node? other =
        (builder.registry.bind index builder.graph.size).node? other := by
      simp [leaves.registry_eq]
    exact Builder.registers_of_bind (Builder.brings_of_registerConstant working ran) unbound bind
  | input unbound _ _ _ ran =>
    obtain ⟨_, _, id, _, _, _, leaves⟩ := Builder.registerInput_leaves ran
    have bind : ∀ other, after.registry.node? other = (builder.registry.bind index id).node? other := by
      simp [leaves.registry_eq]
    exact Builder.registers_of_bind (Builder.brings_of_registerInput working ran) unbound bind
  | foreign => exact .refl _

theorem registers_of_materializeAll {indices : List OperandIndex}
    (ran : partition.materializeAll tensors indices builder = .ok given after) :
    builder.Registers kind after := by
  refine materializeAll_keeps (fun _ _ here => builder.Registers kind here) ?_ [] [] (.refl _) ran
  intro index _ asked given more between next registers ran
  exact registers.trans (registers_of_materialize working ran)

theorem Builder.brings_of_resultNodes {outputs : List OperandIndex} :
    ∀ {builder : Builder} {ids : List NodeId},
      Builder.resultNodes outputs builder = .ok ids after →
      builder.graph.Brings kind after.graph [] := by
  induction outputs with
  | nil =>
    intro builder ids ran
    cases ran
    exact .refl _
  | cons index rest ih =>
    intro builder ids ran
    obtain ⟨_, between, here, ran⟩ := run_bind_eq_ok.1 ran
    obtain ⟨_, _, later, last⟩ := run_bind_eq_ok.1 ran
    cases last
    have first : builder.graph.Brings kind between.graph [] := by
      obtain ⟨_, _, turned⟩ := Builder.resultNode_eq_ok.1 here
      rcases turned with ⟨_, draft, turned, rfl⟩ | ⟨_, _, rfl⟩
      · exact Layout.brings_of_toHost working turned
      · exact .refl _
    exact first.trans (ih later)

theorem brings_of_optionPattern {options : BuiltinOptions} {draft last : Draft} {pattern : NodeId}
    (ran : Emission.optionPattern options draft = .ok pattern last) :
    draft.graph.Brings kind last.graph [] := by
  cases options with
  | reshape options =>
    rw [Emission.optionPattern] at ran
    by_cases empty : options.newShape = []
    · rw [if_pos empty] at ran
      cases ran
    · rw [if_neg empty] at ran
      obtain ⟨node, _, added, ran⟩ := run_bind_eq_ok.1 ran
      cases ran
      exact brings_of_constant working added
  | _ => cases ran

theorem brings_of_reshape {scope : Scope} {inputs : List OperandIndex} {options : BuiltinOptions}
    {draft last : Draft} {result : NodeId}
    (ran : Emission.reshape scope inputs options draft = .ok result last) :
    draft.graph.Brings kind last.graph [] := by
  obtain ⟨data, _, ran⟩ := run_lift_bind_eq_ok.1 ran
  obtain ⟨pattern?, _, ran⟩ := run_lift_bind_eq_ok.1 ran
  cases pattern? with
  | none =>
    obtain ⟨pattern, between, chosen, ran⟩ := run_bind_eq_ok.1 ran
    obtain ⟨node, _, reshaped, ran⟩ := run_bind_eq_ok.1 ran
    cases ran
    exact (brings_of_optionPattern working chosen).trans
      (brings_of_op kind (working _ rfl) reshaped).1
  | some pattern =>
    obtain ⟨_, _, chosen, ran⟩ := run_bind_eq_ok.1 ran
    cases chosen
    obtain ⟨node, _, reshaped, ran⟩ := run_bind_eq_ok.1 ran
    cases ran
    exact (brings_of_op kind (working _ rfl) reshaped).1

end Kinds

/-! ## Lowering a reshape and a softmax -/

section Nodes

variable {tensors : TensorContext} {builder after : Builder} {node : ScheduledNode}
  {operand : OperandIndex} {id : NodeId}

theorem Builder.brings_of_lowered_reshape {kind : Op → Bool} (working : Op.Working kind)
    (op : node.op = .builtin .reshape)
    (ran : Builder.lowerNode node.id node tensors builder = .ok () after) :
    builder.graph.Brings kind after.graph [] := by
  obtain ⟨_, recipe, _, draft, target, emitted, leaves⟩ := Builder.lowerNode_leaves ran
  obtain ⟨_, _, known⟩ := Builder.target_eq_ok.1 target
  rw [op] at known
  cases known
  rw [leaves.graph_eq]
  exact brings_of_reshape working emitted

/-- A softmax is one operation, along the second axis of the node of its first operand. -/
theorem Builder.of_lowered_softmax (op : node.op = .builtin .softmax)
    (first : node.inputs.head? = some operand) (held : builder.registry.node? operand = some id)
    {data : Node} (found : builder.graph.node? id = some data)
    (ran : Builder.lowerNode node.id node tensors builder = .ok () after) :
    1 < data.rank ∧ ∃ softmax, builder.graph.Brings Op.isSoftmax after.graph [softmax] ∧
      softmax.op = .softmax 1 ∧ softmax.inputs = [id] := by
  obtain ⟨_, recipe, result, draft, target, emitted, leaves⟩ := Builder.lowerNode_leaves ran
  obtain ⟨_, _, known⟩ := Builder.target_eq_ok.1 target
  rw [op] at known
  cases known
  obtain ⟨source, looked, emitted⟩ := run_lift_bind_eq_ok.1 emitted
  obtain ⟨softmax, _, applied, emitted⟩ := run_bind_eq_ok.1 emitted
  cases emitted
  obtain ⟨index, here, _, bound⟩ := input_eq_ok.1 looked
  rw [← List.head?_eq_getElem?, first] at here
  cases here
  cases bound.symm.trans held
  obtain ⟨type, inferred, rfl, graph⟩ := of_op applied
  obtain ⟨_, found', typed⟩ := Graph.infer_single_eq_ok.1 inferred
  cases found'.symm.trans found
  have brings := builder.graph.brings_push Op.isSoftmax (.softmax 1) [id] type
  refine ⟨rank_of_infer_softmax typed, (builder.graph.push (.softmax 1) [id] type).1, ?_, rfl, rfl⟩
  rw [leaves.graph_eq, graph]
  exact brings

end Nodes

/-! ## Networks of a softmax -/

inductive OperandOrigin
  | fed (source : Tensor)
  | reshaped (source : Tensor) (pattern : List Int)

namespace OperandOrigin

def hostShape : OperandOrigin → Shape
  | fed source => source.hostShape
  | reshaped source pattern => Host.requested source.hostShape.prod pattern

def standingShape : OperandOrigin → Shape
  | fed source => Layout.engineShape source.hostShape
  | reshaped source pattern => Host.requested source.hostShape.prod pattern

def Fits : OperandOrigin → Prop
  | fed source => source.hostShape ≠ [] ∧ source.hostShape.length ≤ 4
  | reshaped _ _ => True

/-- The last extent of a reshaped operand is its second one, or as large. -/
def EndsSecond : OperandOrigin → Prop
  | fed _ => True
  | reshaped source pattern => 2 < pattern.length →
      (Host.requested source.hostShape.prod pattern)[1]? =
        (Host.requested source.hostShape.prod pattern).getLast?

end OperandOrigin

/-- The nodes before a softmax provide its operand: none for one that the host feeds, and a reshape by a
pattern of weights. -/
inductive Partition.Provides (partition : Partition) (tensors : TensorContext) :
    List ScheduledNode → OperandIndex → OperandOrigin → Prop
  | fed {operand : OperandIndex} {source : Tensor}
      (fed : FedOperand partition tensors operand source) :
      Provides partition tensors [] operand (.fed source)
  | reshaped {node : ScheduledNode} {data asked operand : OperandIndex} {source holder : Tensor}
      {pattern : List Int} (op : node.op = .builtin .reshape) (inputs : node.inputs = [data, asked])
      (written : node.outputs.head? = some operand) (fed : FedOperand partition tensors data source)
      (known : tensors.get? asked = some holder) (kept : holder.allocation = .mmapRo)
      (values : Host.integers? holder = some pattern) :
      Provides partition tensors [node] operand (.reshaped source pattern)

section Networks

variable {partition : Partition} {tensors : TensorContext} {earlier : List ScheduledNode}
  {node : ScheduledNode} {operand : OperandIndex} {origin : OperandOrigin} {given more : List OperandIndex}
  {between before : Builder}

/-- The operand of a softmax is the first that it asks for. -/
theorem neededInputs_of_softmax (op : node.op = .builtin .softmax)
    (first : node.inputs.head? = some operand)
    (checked : Support.check node.op node.inputs node.options tensors = .ok ()) :
    ∃ rest tensor, node.neededInputs = operand :: rest ∧ Support.Admitted tensors operand tensor := by
  have ruled : Support.rule? node.op node.inputs.length = some Support.unaryRule := by
    rw [op]
    rfl
  obtain ⟨index, rest, tensor, inputs, admitted, _⟩ := Support.of_check_unary checked ruled
  rw [inputs] at first
  cases first
  have other : node.op ≠ .builtin .transposeConv := by simp [op]
  refine ⟨rest.filter fun index => 0 ≤ index, tensor, ?_, admitted⟩
  rw [ScheduledNode.neededInputs, if_neg other, inputs]
  exact List.filter_cons_of_pos (decide_eq_true admitted.valid)

/-- A graph input that is registered first stands in the engine's layout. -/
theorem FedOperand.stands {source : Tensor} (fed : FedOperand partition tensors operand source)
    (admitted : Support.Admitted tensors operand source)
    (ran : partition.materialize tensors operand {} = .ok given before) :
    (source.hostShape ≠ [] ∧ source.hostShape.length ≤ 4) ∧
      ∃ id data, before.registry.node? operand = some id ∧ before.graph.node? id = some data ∧
        data.shape = Layout.engineShape source.hostShape := by
  cases materialize_eq_ok.1 ran with
  | bound held =>
    obtain ⟨_, held⟩ := held
    cases held
  | weights _ known kept =>
    cases admitted.unique known
    exact absurd kept fed.mutable
  | input _ known _ _ ran =>
    cases admitted.unique known
    obtain ⟨elementType, shape, typed⟩ := Builder.inputType_of_registerInput ran
    obtain ⟨_, given, low, _, shaped⟩ := Builder.inputType_eq_ok.1 typed
    obtain ⟨_, rfl⟩ := Layout.shape_eq_ok.1 shaped
    obtain ⟨id, _, ran', moves, data, found, type⟩ :=
      Builder.registerInput_ok typed (.inr admitted.elementCount?) {}
    rw [ran] at ran'
    cases ran'
    refine ⟨⟨?_, ?_⟩, id, data, ?_, found, congrArg Prod.fst type⟩
    · simpa [Tensor.hostShape] using given
    · rwa [Tensor.hostShape, List.length_map]
    · rw [moves.registry_eq, Registry.node?_flag, Registry.node?_bind_self]
  | foreign _ _ _ apart => exact absurd fed.member apart

/-- What a reshape of a graph input gives stands in the shape that its pattern requests. -/
theorem stands_of_reshape {data asked : OperandIndex} {source holder : Tensor} {pattern : List Int}
    (op : node.op = .builtin .reshape) (inputs : node.inputs = [data, asked])
    (written : node.outputs.head? = some operand) (fed : FedOperand partition tensors data source)
    (known : tensors.get? asked = some holder) (kept : holder.allocation = .mmapRo)
    (values : Host.integers? holder = some pattern)
    (ran : partition.lowerNode tensors node {} = .ok given between) :
    Graph.Brings Op.isSoftmax {} between.graph [] ∧
      ∃ id result, between.registry.node? operand = some id ∧
        between.graph.node? id = some result ∧
        result.shape = Host.requested source.hostShape.prod pattern := by
  obtain ⟨checked, supplied, registered, lowered⟩ := partition_lowerNode_eq_ok.1 ran
  have early := registers_of_materializeAll Op.working_isSoftmax registered
  have late := Builder.brings_of_lowered_reshape Op.working_isSoftmax op lowered
  refine ⟨early.brings.trans late, ?_⟩
  -- this step is all of the lowering of a partition of the reshape alone
  let alone : Partition := { partition with nodes := [node], outputs := [operand] }
  have reshapes : alone.Reshapes tensors node data asked operand source holder :=
    ⟨⟨rfl, written, List.mem_singleton.2 rfl⟩, op, inputs, ⟨fed.known, fed.mutable, fed.member⟩, known,
      kept⟩
  have same : alone.inputs = partition.inputs := rfl
  rw [← materializeAll_of_inputs same] at registered
  obtain ⟨accepted, _⟩ := reshapes.accepted checked
  have supplies := accepted.supplied registered
  obtain ⟨first, recipe, type, uses, target, told, writes⟩ := supplies.lowerNode lowered
  obtain ⟨_, head, recipe_eq⟩ := Builder.target_eq_ok.1 target
  rw [op] at recipe_eq
  cases recipe_eq
  rw [written] at head
  cases head
  obtain ⟨id, held, result, found, typed⟩ := writes.typed
  refine ⟨id, result, held, found, ?_⟩
  rw [← reshapes.of_typeOf accepted values supplies told, ← typed]
  rfl

/-- The nodes before a softmax bring no other one, and its operand comes to stand as told. -/
theorem Partition.Provides.stands (provides : partition.Provides tensors earlier operand origin)
    (op : node.op = .builtin .softmax) (first : node.inputs.head? = some operand)
    (checked : Support.check node.op node.inputs node.options tensors = .ok ())
    (ran : partition.lowerNodes tensors earlier {} = .ok given between)
    (registered : partition.materializeAll tensors node.neededInputs between = .ok more before) :
    Graph.Brings Op.isSoftmax {} before.graph [] ∧ origin.Fits ∧
      ∃ id data, before.registry.node? operand = some id ∧ before.graph.node? id = some data ∧
        data.shape = origin.standingShape := by
  have late := registers_of_materializeAll Op.working_isSoftmax registered
  obtain ⟨rest, tensor, needed, admitted⟩ := neededInputs_of_softmax op first checked
  cases provides with
  | fed fed =>
    cases ran
    refine ⟨late.brings, ?_⟩
    cases admitted.unique fed.known
    rw [needed] at registered
    obtain ⟨_, middle, here, registered⟩ := run_bind_eq_ok.1 registered
    obtain ⟨_, _, later, last⟩ := run_bind_eq_ok.1 registered
    cases last
    obtain ⟨fits, id, data, held, found, shape⟩ := fed.stands admitted here
    have rest := registers_of_materializeAll Op.working_isSoftmax later
    exact ⟨fits, id, data, rest.kept operand id held, rest.brings.longer.node? found, shape⟩
  | reshaped op' inputs written fed known kept values =>
    obtain ⟨_, _, _, here, rest, _⟩ := lowerNodes_cons_eq_ok.1 ran
    cases rest
    obtain ⟨brings, id, data, held, found, shape⟩ :=
      stands_of_reshape op' inputs written fed known kept values here
    exact ⟨brings.trans late.brings, trivial, id, data, late.kept operand id held,
      late.brings.longer.node? found, shape⟩

end Networks

/-! ## Extents -/

/-- The second axis of the engine's layout is the last one of the host's. -/
theorem Layout.second_engineShape {shape : Shape} (given : shape ≠ []) (fits : shape.length ≤ 4) :
    (engineShape shape)[1]? = shape.getLast? := by
  have rank := Shape.length_padLeft fits
  have last : (Shape.padLeft 4 shape).getLast? = shape.getLast? := by
    rw [Shape.padLeft, List.getLast?_append_of_ne_nil _ given]
  obtain ⟨batch, height, width, channels, image⟩ := Shape.exists_image rank
  rw [← last, engineShape, image]
  rfl

/-- The second extent in the engine is the last one of the host as told. -/
theorem OperandOrigin.last_iff_endsSecond {origin : OperandOrigin} {extent : Nat} (fits : origin.Fits)
    (here : origin.standingShape[1]? = some extent) :
    origin.hostShape.getLast? = some extent ↔ origin.EndsSecond := by
  rw [← here]
  cases origin with
  | fed source =>
    rw [OperandOrigin.standingShape, Layout.second_engineShape fits.1 fits.2]
    exact iff_of_true rfl trivial
  | reshaped source pattern =>
    rw [OperandOrigin.hostShape, OperandOrigin.standingShape, OperandOrigin.EndsSecond, eq_comm]
    obtain ⟨below, _⟩ := List.getElem?_eq_some_iff.1 here
    rw [OperandOrigin.standingShape, Host.length_requested] at below
    by_cases more : 2 < pattern.length
    · exact (imp_iff_right more).symm
    · have two : (Host.requested source.hostShape.prod pattern).length = 2 := by
        rw [Host.length_requested]
        omega
      refine iff_of_true ?_ fun more' => absurd more' more
      rw [List.getLast?_eq_getElem?, two]

/-- A lowered softmax of an operand that the host feeds, or of a reshape of one, is the only softmax of its
graph and is taken along the second axis of its operand.  That is the host's last axis for a graph input,
and for a reshaped one just where its second extent is its last, or as large. -/
theorem softmax_extents (partition : Partition) (tensors : TensorContext) (settings : Settings)
    (lowered : LoweredPartition) (earlier : List ScheduledNode) (node : ScheduledNode)
    (operand : OperandIndex) (origin : OperandOrigin) (nodes : partition.nodes = earlier ++ [node])
    (op : node.op = .builtin .softmax) (first : node.inputs.head? = some operand)
    (provides : partition.Provides tensors earlier operand origin)
    (ran : partition.lower tensors settings = .ok lowered) :
    ∃ softmax id data extent, lowered.model.graph.softmaxes = [softmax] ∧ softmax.op = .softmax 1 ∧
      softmax.inputs = [id] ∧ lowered.model.graph.node? id = some data ∧
      data.shape = origin.standingShape ∧ data.shape[1]? = some extent ∧
      (origin.hostShape.getLast? = some extent ↔ origin.EndsSecond) := by
  obtain ⟨inputs, built, last, ids, lowers, rfl⟩ := lower_eq_ok.1 ran
  have schedule := lowers.lowered
  rw [nodes] at schedule
  obtain ⟨_, between, _, early, late, _⟩ := lowerNodes_append_eq_ok.1 schedule
  obtain ⟨_, _, _, here, rest, _⟩ := lowerNodes_cons_eq_ok.1 late
  cases rest
  obtain ⟨checked, before, registered, lowered⟩ := partition_lowerNode_eq_ok.1 here
  obtain ⟨plain, fits, id, data, held, found, shape⟩ :=
    provides.stands op first checked early registered
  obtain ⟨ranked, softmax, brings, kind, operands⟩ :=
    Builder.of_lowered_softmax op first held found lowered
  have results := Builder.brings_of_resultNodes Op.working_isSoftmax lowers.results
  have whole := (plain.trans brings).trans results
  have below : 1 < data.shape.length := ranked
  have here : data.shape[1]? = some data.shape[1] := List.getElem?_eq_getElem below
  have standing : origin.standingShape[1]? = some data.shape[1] := by rw [← shape, here]
  exact ⟨softmax, id, data, data.shape[1], whole.softmaxes, kind, operands,
    (brings.trans results).longer.node? found, shape, here, OperandOrigin.last_iff_endsSecond fits standing⟩

namespace SoftmaxExample

def image (dims : List Int32) : Tensor where
  tensorType := .float32
  dims

def tensors (entries : List Int32) : TensorContext :=
  .ofList [(0, ReshapeExample.matrix), (1, ReshapeExample.pattern entries), (2, image entries)]

def softmax : ScheduledNode where
  id := 1
  op := .builtin .softmax
  inputs := [2]
  outputs := [3]
  options := .softmax {}

def partition : Partition where
  inputs := [0]
  outputs := [3]
  nodes := [ReshapeExample.node, softmax]

theorem provides {entries : List Int32} {pattern : List Int}
    (values : Host.integers? (ReshapeExample.pattern entries) = some pattern) :
    partition.Provides (tensors entries) [ReshapeExample.node] 2
      (.reshaped ReshapeExample.matrix pattern) :=
  .reshaped rfl rfl rfl ⟨rfl, Allocation.noConfusion, List.mem_singleton.2 rfl⟩ rfl rfl values

def shown (lowered : LoweredPartition) : List (Op × List (Option Shape)) :=
  lowered.model.graph.softmaxes.map fun node =>
    (node.op, node.inputs.map fun id => (lowered.model.graph.node? id).map Node.shape)

end SoftmaxExample

open SoftmaxExample in
theorem softmax_extents_matrix :
    ∃ lowered softmax id data, partition.lower (tensors [4, 30]) {} = .ok lowered ∧
      lowered.model.graph.softmaxes = [softmax] ∧ softmax.op = .softmax 1 ∧ softmax.inputs = [id] ∧
      lowered.model.graph.node? id = some data ∧ data.shape = [4, 30] ∧
      data.shape[1]? = (OperandOrigin.reshaped ReshapeExample.matrix [4, 30]).hostShape.getLast? := by
  have values : Host.integers? (ReshapeExample.pattern [4, 30]) = some [4, 30] := by decide
  have succeeds : (partition.lower (tensors [4, 30]) {}).isOk = true := by decide +kernel
  obtain ⟨lowered, ran⟩ := exists_of_isOk succeeds
  obtain ⟨node, id, data, extent, only, op, inputs, found, shape, here, last⟩ :=
    softmax_extents partition (tensors [4, 30]) {} lowered [ReshapeExample.node] softmax 2 _ rfl rfl rfl
      (provides values) ran
  refine ⟨lowered, node, id, data, ran, only, op, inputs, found, shape, ?_⟩
  rw [here, last.2 fun more => absurd more (by decide)]

open SoftmaxExample in
/-- Four extents: the softmax is taken along three elements, and the host's last extent is five. -/
theorem softmax_along_second_extent :
    partition.Provides (tensors [2, 3, 4, 5]) [ReshapeExample.node] 2
        (.reshaped ReshapeExample.matrix [2, 3, 4, 5]) ∧
      (OperandOrigin.reshaped ReshapeExample.matrix [2, 3, 4, 5]).hostShape.getLast? = some 5 ∧
      ∃ lowered, partition.lower (tensors [2, 3, 4, 5]) {} = .ok lowered ∧
        shown lowered = [(.softmax 1, [some [2, 3, 4, 5]])] ∧
        ([2, 3, 4, 5] : Shape)[1]? = some 3 := by
  refine ⟨provides (by decide), by decide, ?_⟩
  have found : (partition.lower (tensors [2, 3, 4, 5]) {}).toOption.bind
      (fun lowered => some (shown lowered)) = some [(.softmax 1, [some [2, 3, 4, 5]])] := by
    decide +kernel
  obtain ⟨lowered, ran, data⟩ := exists_of_toOption_bind found
  exact ⟨lowered, ran, Option.some.inj data, rfl⟩

end PartitionLowering
