import PartitionLowering.Proofs.Networks.Bindings
import PartitionLowering.Proofs.Networks.Environment

/-!
Partitions of one node.  After the operands of the node have been registered, each stands as it was given:
weights in the host's layout, graph inputs in the engine's (`Supplied`).  A type told on such operands is
the type of the result, an image back in the host's layout (`Lone.of_lower`), and a node that has a type
is lowered where its partition is ready (`Lone.lower_ok`).
-/

set_option autoImplicit false

namespace PartitionLowering

/-! ## Results -/

theorem exists_beside {α β : Type} {Related : α → β → Prop} {places : List α} {values : List β}
    (related : List.Forall₂ Related places values) {place : α} :
    ∀ {position : Nat}, places[position]? = some place →
      ∃ value, values[position]? = some value ∧ Related place value := by
  induction related with
  | nil =>
    intro position here
    simp at here
  | @cons _ value _ _ first _ ih =>
    intro position here
    cases position with
    | zero =>
      cases here
      exact ⟨value, rfl, first⟩
    | succ position => exact ih here

namespace LoweredPartition

def resultShape? (lowered : LoweredPartition) (position : Nat) : Option Shape :=
  lowered.model.results[position]?.bind fun id => (lowered.model.graph.node? id).map Node.shape

/-- Wherever an operand is declared as an output, the result has the given shape. -/
def Returns (lowered : LoweredPartition) (output : OperandIndex) (shape : Shape) : Prop :=
  ∀ position, lowered.outputs[position]? = some output → lowered.resultShape? position = some shape

/-- A declared output has one shape. -/
theorem Returns.iff_eq {lowered : LoweredPartition} {output : OperandIndex} {shape shape' : Shape}
    (returns : lowered.Returns output shape) (declared : output ∈ lowered.outputs) :
    lowered.Returns output shape' ↔ shape = shape' := by
  constructor
  · intro returns'
    obtain ⟨position, here⟩ := List.getElem?_of_mem declared
    have same := returns' position here
    rw [returns position here] at same
    exact Option.some.inj same
  · intro same
    rwa [← same]

end LoweredPartition

namespace Builder

variable {builder after : Builder} {index : OperandIndex}

/-- A node gives an operand to the host: it has the operand's type, an image in the host's layout. -/
def Gives (builder : Builder) (graph : Graph) (index : OperandIndex) (id : NodeId) : Prop :=
  ∀ source type, builder.registry.node? index = some source → builder.graph.Typed source type →
    graph.Typed id (type.1.channelsLast, type.2)

theorem Gives.of_later {graph longer : Graph} {id : NodeId} (given : after.Gives graph index id)
    (moves : builder.Moves after builder.registry) (grown : graph.Extends longer) :
    builder.Gives longer index id := by
  intro source type bound typed
  rw [← moves.registry_eq] at bound
  exact grown.typed (given source type bound (moves.longer.typed typed))

/-- An operand with a node of the graph is given back. -/
theorem resultNode_of_live (live : builder.registry.Live builder.graph) (bound : builder.Bound index) :
    ∃ id after, resultNode index builder = .ok id after ∧ builder.Moves after builder.registry ∧
      builder.Gives after.graph index id := by
  obtain ⟨source, held⟩ := bound
  obtain ⟨node, found⟩ := Graph.exists_node?_of_lt_size (live index source held)
  have only : ∀ source' type, builder.registry.node? index = some source' →
      builder.graph.Typed source' type → type = node.outputType := by
    intro source' type bound typed
    rw [held] at bound
    cases bound
    obtain ⟨node', found', same⟩ := typed
    rw [found] at found'
    cases found'
    exact same.symm
  by_cases image : node.shape.length = 4
  · obtain ⟨batch, channels, height, width, shape⟩ := Shape.exists_image image
    have typed : builder.graph.Typed source ([batch, channels, height, width], node.elementType) :=
      ⟨node, found, by rw [← shape]; rfl⟩
    obtain ⟨result, after, ran, moves, turned⟩ := resultNode_ok held typed
    refine ⟨result, after, ran, moves, ?_⟩
    intro source' type bound typed'
    rw [only source' type bound typed', Node.outputType, shape]
    exact turned
  · have plain : (builder.graph.node? source).any (·.rank = 4) = false := by
      simp [found, Node.rank, image]
    refine ⟨source, builder, resultNode_eq_ok.2 ⟨source, held, .inr ⟨plain, rfl, rfl⟩⟩,
      ⟨.refl _, rfl, rfl⟩, ?_⟩
    intro source' type bound typed
    rw [only source' type bound typed, Node.outputType, Shape.channelsLast_of_length_ne image]
    exact ⟨node, found, rfl⟩

theorem resultNodes_of_live {outputs : List OperandIndex} :
    ∀ {builder : Builder}, builder.registry.Live builder.graph →
      (∀ index ∈ outputs, builder.Bound index) →
      ∃ ids after, resultNodes outputs builder = .ok ids after ∧
        builder.Moves after builder.registry ∧ List.Forall₂ (builder.Gives after.graph) outputs ids := by
  induction outputs with
  | nil =>
    intro builder _ _
    exact ⟨[], builder, rfl, ⟨.refl _, rfl, rfl⟩, .nil⟩
  | cons index rest ih =>
    intro builder live bound
    obtain ⟨id, between, ran, moves, given⟩ := resultNode_of_live live (bound index List.mem_cons_self)
    have live' : between.registry.Live between.graph := by
      intro other source held
      rw [moves.registry_eq] at held
      exact Nat.lt_of_lt_of_le (live other source held) moves.longer.size_le
    have bound' : ∀ other ∈ rest, between.Bound other := by
      intro other member
      obtain ⟨source, held⟩ := bound other (List.mem_cons_of_mem _ member)
      exact ⟨source, by rw [moves.registry_eq, held]⟩
    obtain ⟨ids, after, ran', moves', givens⟩ := ih live' bound'
    have registry : after.registry = builder.registry := moves'.registry_eq.trans moves.registry_eq
    refine ⟨id :: ids, after, ?_, ⟨moves.longer.trans moves'.longer, registry,
      moves'.results_eq.trans moves.results_eq⟩, .cons (fun source type held typed =>
        moves'.longer.typed (given source type held typed)) ?_⟩
    · rw [resultNodes, run_bind_of_ok ran, run_bind_of_ok ran']
      rfl
    · exact givens.imp fun _ _ later => later.of_later moves (.refl _)

end Builder

/-! ## Operands as they are given -/

def InputNode (tensors : TensorContext) (graph : Graph) (index : OperandIndex) (id : NodeId) : Prop :=
  ∃ tensor elementType, tensors.get? index = some tensor ∧ tensor.allocation ≠ .mmapRo ∧
    Layout.elementType tensor.tensorType = .ok elementType ∧
    graph.Typed id (Layout.engineShape tensor.hostShape, elementType)

/-- Operands have been asked for, and no node has been lowered: those that can be had stand as they were
given. -/
structure Supplied (partition : Partition) (tensors : TensorContext) (asked : List OperandIndex)
    (builder : Builder) : Prop where
  bound : ∀ index, builder.Bound index ↔ index ∈ asked ∧ Provided partition tensors index
  stands : ∀ index id, builder.registry.node? index = some id →
    WeightNode tensors builder.graph index id ∨ InputNode tensors builder.graph index id
  results_eq : builder.results = []

section Supplying

variable {partition : Partition} {tensors : TensorContext} {asked given : List OperandIndex}
  {builder after : Builder} {index : OperandIndex} {id : NodeId}

theorem WeightNode.mono {graph longer : Graph} (grown : graph.Extends longer)
    (weights : WeightNode tensors graph index id) : WeightNode tensors longer index id := by
  obtain ⟨tensor, data, elementType, known, kept, held, typed, shaped, found⟩ := weights
  exact ⟨tensor, data, elementType, known, kept, held, typed, shaped, grown.node? found⟩

theorem InputNode.mono {graph longer : Graph} (grown : graph.Extends longer)
    (input : InputNode tensors graph index id) : InputNode tensors longer index id := by
  obtain ⟨tensor, elementType, known, mutable, typed, shown⟩ := input
  exact ⟨tensor, elementType, known, mutable, typed, grown.typed shown⟩

theorem supplied_empty : Supplied partition tensors [] {} where
  bound _ := ⟨fun ⟨_, held⟩ => (nomatch held), fun ⟨asked, _⟩ => (nomatch asked)⟩
  stands := nofun
  results_eq := rfl

theorem Supplied.live (supplied : Supplied partition tensors asked builder) :
    builder.registry.Live builder.graph := by
  intro index id held
  rcases supplied.stands index id held with weights | input
  · obtain ⟨_, _, _, _, _, _, _, _, found⟩ := weights
    exact Graph.lt_size_of_node? found
  · obtain ⟨_, _, _, _, _, node, found, _⟩ := input
    exact Graph.lt_size_of_node? found

/-- An operand is asked for that has a node by now. -/
theorem Supplied.bind (supplied : Supplied partition tensors asked builder)
    {registry : Registry} (moves : builder.Moves after registry)
    (bind : ∀ other, registry.node? other = (builder.registry.bind index id).node? other)
    (provided : Provided partition tensors index)
    (stands : WeightNode tensors after.graph index id ∨ InputNode tensors after.graph index id) :
    Supplied partition tensors (asked ++ [index]) after := by
  have lookup : ∀ other, other ≠ index →
      after.registry.node? other = builder.registry.node? other := by
    intro other apart
    rw [moves.registry_eq, bind, Registry.node?_bind_of_ne _ _ _ apart]
  have here : after.registry.node? index = some id := by
    rw [moves.registry_eq, bind, Registry.node?_bind_self]
  refine ⟨?_, ?_, moves.results_eq.trans supplied.results_eq⟩
  · intro other
    by_cases same : other = index
    · rw [same]
      exact ⟨fun _ => ⟨by simp, provided⟩, fun _ => ⟨id, here⟩⟩
    · rw [Builder.Bound, lookup other same, ← Builder.Bound, supplied.bound]
      simp [same]
  · intro other id' held
    by_cases same : other = index
    · rw [same, here] at held
      cases held
      rw [same]
      exact stands
    · rw [lookup other same] at held
      exact (supplied.stands other id' held).imp (.mono moves.longer) (.mono moves.longer)

theorem Supplied.again (supplied : Supplied partition tensors asked builder)
    (settled : builder.Bound index ∨ ¬Provided partition tensors index) :
    Supplied partition tensors (asked ++ [index]) builder := by
  refine ⟨?_, supplied.stands, supplied.results_eq⟩
  intro other
  rw [supplied.bound, List.mem_append, List.mem_singleton]
  by_cases same : other = index
  · subst same
    rw [supplied.bound] at settled
    tauto
  · simp [same]

theorem Supplied.materialize (supplied : Supplied partition tensors asked builder) {tensor : Tensor}
    (admitted : Support.Admitted tensors index tensor)
    (ran : partition.materialize tensors index builder = .ok given after) :
    Supplied partition tensors (asked ++ [index]) after := by
  cases materialize_eq_ok.1 ran with
  | bound held => exact supplied.again (.inl held)
  | weights unbound known kept ran =>
    cases admitted.unique known
    obtain ⟨elementType, shape, data, held, typed, shaped, moves, found⟩ :=
      Builder.registerConstant_eq_ok ran
    obtain ⟨_, rfl⟩ := Layout.shape_eq_ok.1 shaped
    exact supplied.bind moves (fun _ => rfl) (.inr ⟨tensor, known, kept⟩)
      (.inl ⟨tensor, data, elementType, known, kept, held, typed, shaped, found⟩)
  | input unbound known mutable member ran =>
    cases admitted.unique known
    obtain ⟨elementType, shape, typed⟩ := Builder.inputType_of_registerInput ran
    obtain ⟨_, _, _, element, shaped⟩ := Builder.inputType_eq_ok.1 typed
    obtain ⟨_, rfl⟩ := Layout.shape_eq_ok.1 shaped
    obtain ⟨id, after', ran', moves, shown⟩ :=
      Builder.registerInput_ok typed (.inr admitted.elementCount?) builder
    rw [ran] at ran'
    cases ran'
    exact supplied.bind moves (fun _ => rfl) (.inl member)
      (.inr ⟨tensor, elementType, known, mutable, element, shown⟩)
  | foreign unbound known mutable apart =>
    refine supplied.again (.inr ?_)
    rintro (member | ⟨other, known', kept⟩)
    · exact apart member
    · rw [known] at known'
      cases known'
      exact mutable kept

theorem Supplied.materializeAll {indices : List OperandIndex}
    (supplied : Supplied partition tensors asked builder)
    (admits : ∀ index ∈ indices, ∃ tensor, Support.Admitted tensors index tensor)
    (ran : partition.materializeAll tensors indices builder = .ok given after) :
    Supplied partition tensors (asked ++ indices) after := by
  refine materializeAll_keeps (fun asked _ here => Supplied partition tensors asked here)
    ?_ asked [] supplied ran
  intro index member asked given more between next supplied ran
  obtain ⟨tensor, admitted⟩ := admits index member
  exact supplied.materialize admitted ran

/-! ### Operands of a node -/

/-- The host feeds an operand: an input of the partition that is no weights. -/
structure FedOperand (partition : Partition) (tensors : TensorContext) (index : OperandIndex)
    (tensor : Tensor) : Prop where
  known : tensors.get? index = some tensor
  mutable : tensor.allocation ≠ .mmapRo
  member : index ∈ partition.inputs

variable {inputs : List OperandIndex} {position : Nat} {tensor : Tensor}

/-- A graph input stands in the engine's layout. -/
theorem Supplied.data (supplied : Supplied partition tensors inputs builder)
    (here : inputs[position]? = some index) (admitted : Support.Admitted tensors index tensor)
    (fed : FedOperand partition tensors index tensor) :
    ∃ elementType, Layout.elementType tensor.tensorType = .ok elementType ∧
      Scope.Data ⟨builder.registry, tensors⟩ builder.graph inputs position
        (Layout.engineShape tensor.hostShape, elementType) := by
  obtain ⟨id, held⟩ := (supplied.bound index).2 ⟨List.mem_of_getElem? here, .inl fed.member⟩
  rcases supplied.stands index id held with weights | input
  · obtain ⟨_, _, _, known, kept, _⟩ := weights
    cases admitted.unique known
    exact absurd kept fed.mutable
  · obtain ⟨_, elementType, known, _, typed, node, found, type⟩ := input
    cases admitted.unique known
    exact ⟨elementType, typed, node, ⟨index, id, here, admitted.valid, held, found⟩, type⟩

/-- Weights stand in the host's layout. -/
theorem Supplied.weights (supplied : Supplied partition tensors inputs builder)
    (here : inputs[position]? = some index) (admitted : Support.Admitted tensors index tensor)
    (kept : tensor.allocation = .mmapRo) :
    ∃ id data elementType, tensor.data = some data ∧
      Layout.elementType tensor.tensorType = .ok elementType ∧
      Scope.Reads ⟨builder.registry, tensors⟩ builder.graph inputs position
        ⟨id, .constant data, [], tensor.hostShape, elementType⟩ := by
  have provided : Provided partition tensors index := .inr ⟨tensor, admitted.known, kept⟩
  obtain ⟨id, held⟩ := (supplied.bound index).2 ⟨List.mem_of_getElem? here, provided⟩
  rcases supplied.stands index id held with weights | input
  · obtain ⟨_, data, elementType, known, _, payload, typed, _, found⟩ := weights
    cases admitted.unique known
    exact ⟨id, data, elementType, payload, typed, index, id, here, admitted.valid, held, found⟩
  · obtain ⟨_, _, known, mutable, _⟩ := input
    cases admitted.unique known
    exact absurd kept mutable

end Supplying

/-! ## Operands that can be had -/

section Obtaining

variable {partition : Partition} {tensors : TensorContext} {index : OperandIndex} {tensor : Tensor}

theorem unbound_empty (index : OperandIndex) : ({} : Builder).registry.node? index = none :=
  rfl

/-- Weights whose payload has the right size make a constant. -/
theorem Builder.constantContent_of_admitted (admitted : Support.Admitted tensors index tensor)
    {payload : List UInt8} {elementType : ElementType} (held : tensor.data = some payload)
    (typed : Layout.elementType tensor.tensorType = .ok elementType)
    (sized : tensor.byteSize? = some payload.length) :
    constantContent tensor index = .ok (elementType, tensor.hostShape, payload) :=
  constantContent_eq_ok.2 ⟨admitted.valid, admitted.given, held, typed, admitted.shape, sized⟩

/-- Weights can be had where they make a constant. -/
theorem obtains_weights (known : tensors.get? index = some tensor)
    (kept : tensor.allocation = .mmapRo) :
    partition.Obtains tensors index ↔
      ∃ elementType shape data, Builder.constantContent tensor index = .ok (elementType, shape, data) ∧
        (Shape.elementCount? shape).bind elementType.byteLength? = some data.length := by
  constructor
  · rintro ⟨given, after, ran⟩
    cases materialize_eq_ok.1 ran with
    | bound held => cases held.choose_spec
    | weights _ known' _ ran =>
      rw [known] at known'
      cases known'
      obtain ⟨elementType, shape, data, content, sized, _⟩ := Builder.registerConstant_leaves ran
      exact ⟨elementType, shape, data, content, sized⟩
    | input _ known' mutable =>
      rw [known] at known'
      cases known'
      exact absurd kept mutable
    | foreign _ known' mutable =>
      rw [known] at known'
      cases known'
      exact absurd kept mutable
  · rintro ⟨elementType, shape, data, content, sized⟩
    obtain ⟨after, ran, _⟩ := Builder.registerConstant_of_ok {} content sized
    exact ⟨[], after, materialize_eq_ok.2 (.weights (unbound_empty index) known kept ran)⟩

/-- A graph input can be had where it has a type. -/
theorem obtains_input (admitted : Support.Admitted tensors index tensor)
    (mutable : tensor.allocation ≠ .mmapRo) (member : index ∈ partition.inputs) :
    partition.Obtains tensors index ↔ ∃ type, Builder.inputType tensor index = .ok type := by
  constructor
  · rintro ⟨given, after, ran⟩
    cases materialize_eq_ok.1 ran with
    | bound held => cases held.choose_spec
    | weights _ known' kept =>
      cases admitted.unique known'
      exact absurd kept mutable
    | input _ known' _ _ ran =>
      cases admitted.unique known'
      obtain ⟨elementType, shape, typed⟩ := Builder.inputType_of_registerInput ran
      exact ⟨_, typed⟩
    | foreign _ _ _ apart => exact absurd member apart
  · rintro ⟨⟨elementType, shape⟩, typed⟩
    obtain ⟨_, _, _, _, shaped⟩ := Builder.inputType_eq_ok.1 typed
    obtain ⟨_, rfl⟩ := Layout.shape_eq_ok.1 shaped
    obtain ⟨id, after, ran, _⟩ := Builder.registerInput_ok typed (.inr admitted.elementCount?) {}
    exact ⟨[index], after,
      materialize_eq_ok.2 (.input (unbound_empty index) admitted.known mutable member ran)⟩

/-- An operand that is neither weights nor an input of the partition is left without a node. -/
theorem obtains_foreign (known : tensors.get? index = some tensor)
    (mutable : tensor.allocation ≠ .mmapRo) (apart : index ∉ partition.inputs) :
    partition.Obtains tensors index :=
  ⟨[], {}, materialize_eq_ok.2 (.foreign (unbound_empty index) known mutable apart)⟩

end Obtaining

/-! ## The node -/

/-- A check accepts a node and all of its operands, each of which it needs. -/
structure ScheduledNode.Accepted (node : ScheduledNode) (tensors : TensorContext) : Prop where
  checked : Support.check node.op node.inputs node.options tensors = .ok ()
  admits : ∀ index ∈ node.inputs, ∃ tensor, Support.Admitted tensors index tensor
  plain : node.op ≠ .builtin .transposeConv

section Nodes

variable {partition : Partition} {tensors : TensorContext} {node : ScheduledNode}
  {builder after : Builder} {output : OperandIndex} {recipe : Recipe}

/-- A rule with ranks speaks of all operands. -/
theorem accepted_of_ranked {types : List (List TensorType)} {ranks : List (List Nat)}
    (checked : Support.check node.op node.inputs node.options tensors = .ok ())
    (ruled : Support.rule? node.op node.inputs.length = some ⟨types, some ranks⟩)
    (plain : node.op ≠ .builtin .transposeConv) : node.Accepted tensors := by
  obtain ⟨_, each⟩ := Support.of_check_ranked checked ruled
  refine ⟨checked, fun index member => ?_, plain⟩
  obtain ⟨position, here⟩ := List.getElem?_of_mem member
  obtain ⟨tensor, admitted, _⟩ := each position index here
  exact ⟨tensor, admitted⟩

theorem ScheduledNode.Accepted.neededInputs (accepted : node.Accepted tensors) :
    node.neededInputs = node.inputs := by
  rw [ScheduledNode.neededInputs, if_neg accepted.plain, List.filter_eq_self]
  intro index member
  obtain ⟨tensor, admitted⟩ := accepted.admits index member
  exact decide_eq_true admitted.valid

theorem ScheduledNode.Accepted.supplied (accepted : node.Accepted tensors)
    {given : List OperandIndex} {between : Builder}
    (ran : partition.materializeAll tensors node.neededInputs {} = .ok given between) :
    Supplied partition tensors node.inputs between := by
  have supplied := supplied_empty.materializeAll
    (fun index member => accepted.admits index (mem_of_mem_neededInputs member).1) ran
  rwa [List.nil_append, accepted.neededInputs] at supplied

/-- The lowering of a node agrees with its counterpart on types wherever every bound operand has a
node. -/
theorem Builder.ends_emit_of_live (live : builder.registry.Live builder.graph)
    {inputs : List OperandIndex} {options : BuiltinOptions} :
    Ends Graph.Typed (recipe.emit ⟨builder.registry, tensors⟩ inputs options) builder.draft
      (recipe.typing ⟨builder.registry, tensors⟩ builder.graph inputs options) :=
  recipe.ends_emit options fun _ _ index id _ _ held => live index id held

structure Written (tensors : TensorContext) (node : ScheduledNode) (output : OperandIndex)
    (builder after : Builder) (type : OutputType) : Prop where
  bound : ∀ index, after.Bound index ↔ index = output ∨ builder.Bound index
  live : after.registry.Live after.graph
  typed : ∃ result, after.registry.node? output = some result ∧ after.graph.Typed result type
  results_eq : after.results = builder.results

theorem Supplied.lowerNode {inputs : List OperandIndex}
    (supplied : Supplied partition tensors inputs builder)
    (ran : Builder.lowerNode node.id node tensors builder = .ok () after) :
    ∃ output recipe type uses, Builder.target node.id node = .ok (output, recipe) ∧
      builder.typeOf tensors node recipe = .ok (type, uses) ∧
      Written tensors node output builder after type := by
  obtain ⟨output, recipe, result, draft, known, emitted, leaves⟩ := Builder.lowerNode_leaves ran
  obtain ⟨type, uses, told, grows, shown⟩ :=
    (Builder.ends_emit_of_live supplied.live).ok_of_run emitted
  have below : result < draft.graph.size := by
    obtain ⟨_, found, _⟩ := shown
    exact Graph.lt_size_of_node? found
  refine ⟨output, recipe, type, uses, known, told, leaves.bound_iff fun _ => rfl, ?_, ⟨result, ?_, ?_⟩,
    leaves.results_eq⟩
  · exact leaves.live (fun _ => rfl) supplied.live grows.longer below
  · rw [leaves.registry_eq, Registry.node?_bind_self]
  · rwa [leaves.graph_eq]

theorem Supplied.lowerNode_ok {inputs : List OperandIndex}
    (supplied : Supplied partition tensors inputs builder)
    (known : Builder.target node.id node = .ok (output, recipe)) {type : OutputType}
    {uses : List FilterUse} (told : builder.typeOf tensors node recipe = .ok (type, uses)) :
    ∃ after, Builder.lowerNode node.id node tensors builder = .ok () after := by
  obtain ⟨after, _, ran, _⟩ :=
    Builder.lowerNode_of_told known (Builder.ends_emit_of_live supplied.live) told
  exact ⟨after, ran⟩

end Nodes

/-! ## Partitions of one node -/

/-- A partition of one node, the first output of which it declares. -/
structure Partition.Lone (partition : Partition) (node : ScheduledNode) (output : OperandIndex) :
    Prop where
  nodes_eq : partition.nodes = [node]
  written : node.outputs.head? = some output
  declared : output ∈ partition.outputs

/-- What a partition of one node needs besides a type of its node: an id, operands that can be had, and
outputs that have nodes in the end. -/
structure Partition.Ready (partition : Partition) (tensors : TensorContext) (node : ScheduledNode) :
    Prop where
  valid : 0 ≤ node.id
  obtains : ∀ index ∈ node.inputs, partition.Obtains tensors index
  outputs : ∀ index ∈ partition.outputs,
    node.outputs.head? = some index ∨ index ∈ node.inputs ∧ Provided partition tensors index

theorem outputs_of_lower {partition : Partition} {tensors : TensorContext} {settings : Settings}
    {lowered : LoweredPartition} (ran : partition.lower tensors settings = .ok lowered) :
    lowered.outputs = partition.outputs := by
  obtain ⟨_, _, _, _, _, rfl⟩ := lower_eq_ok.1 ran
  rfl

/-- The result that an evaluated lowering shows is the only one that its output can return. -/
theorem exists_of_resultShape? {partition : Partition} {tensors : TensorContext} {settings : Settings}
    {position : Nat} {shown : Shape} {output : OperandIndex}
    (found : (partition.lower tensors settings).toOption.bind
      (LoweredPartition.resultShape? · position) = some shown)
    (declared : partition.outputs[position]? = some output) :
    ∃ lowered, partition.lower tensors settings = .ok lowered ∧
      lowered.resultShape? position = some shown ∧
      ∀ shape, lowered.Returns output shape → shape = shown := by
  obtain ⟨lowered, ran, result⟩ := exists_of_toOption_bind found
  refine ⟨lowered, ran, result, fun shape returns => ?_⟩
  have returned := returns position (by rw [outputs_of_lower ran, declared])
  rw [result] at returned
  exact (Option.some.inj returned).symm

namespace Partition.Lone

variable {partition : Partition} {tensors : TensorContext} {settings : Settings}
  {node : ScheduledNode} {output : OperandIndex} {lowered : LoweredPartition} {recipe : Recipe}
  (lone : partition.Lone node output)

include lone

/-- The steps of a lowering of one node. -/
theorem lower_eq_ok :
    partition.lower tensors settings = .ok lowered ↔
      Support.check node.op node.inputs node.options tensors = .ok () ∧
        ∃ given between built ids last,
          partition.materializeAll tensors node.neededInputs {} = .ok given between ∧
          Builder.lowerNode node.id node tensors between = .ok () built ∧
          Builder.resultNodes partition.outputs built = .ok ids last ∧
          lowered = partition.lowered settings given last ids := by
  rw [PartitionLowering.lower_eq_ok]
  constructor
  · rintro ⟨inputs, built, last, ids, ⟨_, _, ran, results⟩, same⟩
    rw [lone.nodes_eq] at ran
    obtain ⟨first, between, others, here, later, rfl⟩ := lowerNodes_cons_eq_ok.1 ran
    cases later
    obtain ⟨checked, supplied, registered, lowers⟩ := partition_lowerNode_eq_ok.1 here
    rw [List.append_nil] at same
    exact ⟨checked, first, supplied, built, ids, last, registered, lowers, results, same⟩
  · rintro ⟨checked, given, between, built, ids, last, registered, lowers, results, same⟩
    refine ⟨given, built, last, ids, ⟨?_, ?_, ?_, results⟩, same⟩
    · rw [lone.nodes_eq]
      exact List.cons_ne_nil node []
    · exact List.ne_nil_of_mem lone.declared
    · rw [lone.nodes_eq]
      exact lowerNodes_cons_eq_ok.2 ⟨given, built, [],
        partition_lowerNode_eq_ok.2 ⟨checked, between, registered, lowers⟩, rfl,
        (List.append_nil given).symm⟩

theorem declared_of_lower (ran : partition.lower tensors settings = .ok lowered) :
    output ∈ lowered.outputs := by
  rw [outputs_of_lower ran]
  exact lone.declared

theorem checked_of_lower (ran : partition.lower tensors settings = .ok lowered) :
    Support.check node.op node.inputs node.options tensors = .ok () :=
  (lone.lower_eq_ok.1 ran).1

/-- A lowering tells a type of the node on operands as they are given, and the result has that type, an
image in the host's layout. -/
theorem of_lower (accepted : node.Accepted tensors)
    (known : Recipe.ofOpCode node.op = .ok recipe)
    (ran : partition.lower tensors settings = .ok lowered) :
    partition.Ready tensors node ∧ ∃ between type uses,
      Supplied partition tensors node.inputs between ∧
      between.typeOf tensors node recipe = .ok (type, uses) ∧
      lowered.Returns output type.1.channelsLast := by
  obtain ⟨_, given, between, built, ids, last, registered, lowers, results, rfl⟩ :=
    lone.lower_eq_ok.1 ran
  have supplied := accepted.supplied registered
  obtain ⟨first, recipe', type, uses, target, told, written⟩ := supplied.lowerNode lowers
  obtain ⟨id, head, known'⟩ := Builder.target_eq_ok.1 target
  rw [known] at known'
  cases known'
  rw [lone.written] at head
  cases head
  have ready : partition.Ready tensors node := by
    refine ⟨id, ?_, ?_⟩
    · intro index member
      obtain ⟨obtains, _⟩ := Builder.denotes_empty.materializeAll registered
      rw [accepted.neededInputs] at obtains
      exact obtains index member rfl
    · intro index declared
      have held := bound_of_resultNodes results index declared
      rw [written.bound, supplied.bound] at held
      exact held.imp (fun same => by rw [same, lone.written]) fun provided => provided
  refine ⟨ready, between, type, uses, supplied, told, ?_⟩
  obtain ⟨ids', last', results', moves, gives⟩ :=
    Builder.resultNodes_of_live written.live (bound_of_resultNodes results)
  rw [results] at results'
  cases results'
  obtain ⟨result, here, typed⟩ := written.typed
  -- No result stood before, so that results and outputs have the same positions.
  have fresh : last.results = [] :=
    moves.results_eq.trans (written.results_eq.trans supplied.results_eq)
  intro position declared
  obtain ⟨id, there, shown⟩ := exists_beside gives declared
  obtain ⟨node', found, same⟩ := shown result type here typed
  rw [LoweredPartition.resultShape?, Partition.lowered]
  simp only [fresh, List.nil_append, there, Option.bind_some, found, Option.map_some]
  exact congrArg some (congrArg Prod.fst same)

/-- A node that has a type is lowered where its partition is ready. -/
theorem lower_ok (accepted : node.Accepted tensors) (known : Recipe.ofOpCode node.op = .ok recipe)
    (ready : partition.Ready tensors node)
    (tells : ∀ between, Supplied partition tensors node.inputs between →
      ∃ type uses, between.typeOf tensors node recipe = .ok (type, uses)) :
    ∃ lowered, partition.lower tensors settings = .ok lowered := by
  have obtains : ∀ index ∈ node.neededInputs, Environment.empty.tree index = none →
      partition.Obtains tensors index := by
    intro index member _
    exact ready.obtains index (mem_of_mem_neededInputs member).1
  obtain ⟨given, between, registered⟩ := Builder.denotes_empty.materializeAll_ok obtains
  have supplied := accepted.supplied registered
  obtain ⟨type, uses, told⟩ := tells between supplied
  obtain ⟨built, lowers⟩ :=
    supplied.lowerNode_ok (Builder.target_eq_ok.2 ⟨ready.valid, lone.written, known⟩) told
  obtain ⟨first, _, _, _, target, _, written⟩ := supplied.lowerNode lowers
  obtain ⟨_, head, _⟩ := Builder.target_eq_ok.1 target
  have bound : ∀ index ∈ partition.outputs, built.Bound index := by
    intro index declared
    rw [written.bound, supplied.bound]
    refine (ready.outputs index declared).imp_left fun here => ?_
    rw [head] at here
    exact (Option.some.inj here).symm
  obtain ⟨ids, last, results, _⟩ := Builder.resultNodes_of_live written.live bound
  exact ⟨_, lone.lower_eq_ok.2
    ⟨accepted.checked, given, between, built, ids, last, registered, lowers, results, rfl⟩⟩

end Partition.Lone

end PartitionLowering
