import PartitionLowering.Proofs.Host.Reference
import PartitionLowering.Proofs.Lowering.Gains
import PartitionLowering.Proofs.Networks.Mirror

/-!
What a lowered partition binds to its parameters and its results.  `Partition.fedInputs` tells in closed form
which operands the host feeds, in which order, by the host's own scan of the schedule; the lowering needs the
same operands (`Host.scanned_eq`).  `Tracks` ties the operands that have nodes to the part of the schedule that
has been lowered, and `Builder.Keyed` the parameters of the graph to the operands given back so far; every step
keeps both (`Follows.materialize`, `FollowsNodes.lowerNode`).  Main statement: `lower_bindings`.
-/

set_option autoImplicit false

namespace PartitionLowering

/-! ## First occurrences -/

section FirstOccurrences

variable {α : Type} [DecidableEq α]

theorem eraseDups_concat (entries : List α) (last : α) :
    (entries ++ [last]).eraseDups = entries.eraseDups ++ if last ∈ entries then [] else [last] := by
  rw [List.eraseDups_append]
  by_cases seen : last ∈ entries
  · simp [List.removeAll, seen]
  · simp [List.removeAll, seen, List.eraseDups_cons]

theorem nodup_eraseDups (entries : List α) : entries.eraseDups.Nodup := by
  induction entries using List.reverseRecOn with
  | nil => exact List.nodup_nil
  | append_singleton earlier last ih =>
    rw [eraseDups_concat]
    by_cases seen : last ∈ earlier
    · rwa [if_pos seen, List.append_nil]
    · rw [if_neg seen]
      refine List.nodup_append.2 ⟨ih, List.pairwise_singleton _ last, ?_⟩
      rintro entry member _ here rfl
      rw [List.mem_singleton.1 here] at member
      exact seen (List.mem_eraseDups.1 member)

theorem filter_eraseDups_concat (keep : α → Bool) (entries : List α) (last : α) :
    (entries ++ [last]).eraseDups.filter keep =
      entries.eraseDups.filter keep ++ if last ∉ entries ∧ keep last = true then [last] else [] := by
  rw [eraseDups_concat, List.filter_append]
  congr 1
  by_cases seen : last ∈ entries
  · simp [seen]
  · simp [seen, List.filter_singleton]

end FirstOccurrences

/-! ## Operands that the host feeds -/

def IsWeights (tensors : TensorContext) (index : OperandIndex) : Prop :=
  (tensors.get? index).any (fun tensor => tensor.allocation = .mmapRo) = true

instance (tensors : TensorContext) (index : OperandIndex) : Decidable (IsWeights tensors index) :=
  inferInstanceAs (Decidable (_ = true))

theorem isWeights_iff {tensors : TensorContext} {index : OperandIndex} {tensor : Tensor}
    (known : tensors.get? index = some tensor) :
    IsWeights tensors index ↔ tensor.allocation = .mmapRo := by
  rw [IsWeights, known, Option.any_some, decide_eq_true_iff]

/-- Where no position is skipped, a scan drops what is left out and nothing else. -/
theorem filterMap_zipIdx_of_kept {skipped : Nat → Prop} [DecidablePred skipped]
    (inputs : List OperandIndex) (start : Nat) (kept : ∀ position, start ≤ position → ¬skipped position) :
    (inputs.zipIdx start).filterMap (fun (index, position) =>
      if index < 0 ∨ skipped position then none else some index) =
        inputs.filter fun index => 0 ≤ index := by
  induction inputs generalizing start with
  | nil => rfl
  | cons index rest ih =>
    have tail := ih (start + 1) fun position later => kept position (by omega)
    have here := kept start (Nat.le_refl start)
    by_cases omitted : index < 0
    · have absent : ¬0 ≤ index := Int32.not_le.2 omitted
      simp [omitted, absent, tail]
    · have present : 0 ≤ index := Int32.not_lt.1 omitted
      simp [omitted, present, here, tail]

/-- The lowering asks for the nodes that the host's scan tells. -/
theorem Host.scanned_eq (node : ScheduledNode) : Host.scanned node = node.neededInputs := by
  rw [Host.scanned, ScheduledNode.neededInputs]
  by_cases transposed : node.op = .builtin .transposeConv
  · cases inputs : node.inputs with
    | nil => simp
    | cons dims rest =>
      have kept : ∀ position, 1 ≤ position → ¬(node.op = .builtin .transposeConv ∧ position = 0) := by
        omega
      have tail := filterMap_zipIdx_of_kept rest 1 kept
      simpa [transposed] using tail
  · have kept : ∀ position, 0 ≤ position → ¬(node.op = .builtin .transposeConv ∧ position = 0) :=
      fun _ _ both => transposed both.1
    simpa [transposed] using filterMap_zipIdx_of_kept node.inputs 0 kept

namespace Partition

/-- The nodes scheduled before the first one that needs an operand. -/
def nodesBefore (partition : Partition) (index : OperandIndex) : List ScheduledNode :=
  partition.nodes.takeWhile fun node => index ∉ Host.scanned node

/-- The host feeds an operand: an input of the partition that is no weights and that no node has written
before it is first needed. -/
def Feeds (partition : Partition) (tensors : TensorContext) (index : OperandIndex) : Prop :=
  index ∈ partition.inputs ∧ ¬IsWeights tensors index ∧
    ¬Host.Written (partition.nodesBefore index) index

instance (partition : Partition) (tensors : TensorContext) (index : OperandIndex) :
    Decidable (partition.Feeds tensors index) :=
  inferInstanceAs (Decidable (_ ∧ ¬_ ∧ ¬_))

/-- The operands that the host feeds, in the order in which the schedule first needs them. -/
def fedInputs (partition : Partition) (tensors : TensorContext) : List OperandIndex :=
  (partition.nodes.flatMap Host.scanned).eraseDups.filter
    fun index => partition.Feeds tensors index

theorem nodesBefore_eq {partition : Partition} {earlier later : List ScheduledNode}
    {node : ScheduledNode} (split : partition.nodes = earlier ++ node :: later) {index : OperandIndex}
    (needed : index ∈ node.neededInputs)
    (fresh : index ∉ earlier.flatMap ScheduledNode.neededInputs) :
    partition.nodesBefore index = earlier := by
  have passed : ∀ other ∈ earlier, decide (index ∉ Host.scanned other) = true := by
    intro other member
    rw [Host.scanned_eq]
    apply decide_eq_true
    intro asked
    exact fresh (List.mem_flatMap.2 ⟨other, member, asked⟩)
  have asked : index ∈ Host.scanned node := by rwa [Host.scanned_eq]
  rw [nodesBefore, split, List.takeWhile_append_of_pos passed,
    List.takeWhile_cons_of_neg (by simpa using asked), List.append_nil]

end Partition

/-- What has been asked for and given back while a schedule was lowered up to some node, and which
operands have nodes then. -/
structure Tracks (partition : Partition) (tensors : TensorContext) (earlier : List ScheduledNode)
    (asked given : List OperandIndex) (bound : OperandIndex → Prop) : Prop where
  given_eq : given = asked.eraseDups.filter fun index => partition.Feeds tensors index
  written : ∀ index, Host.Written earlier index → bound index
  provided : ∀ index ∈ asked, index ∈ partition.inputs → bound index
  origin : ∀ index, bound index → Host.Written earlier index ∨ index ∈ asked

section Tracking

variable {partition : Partition} {tensors : TensorContext} {earlier : List ScheduledNode}
  {asked given : List OperandIndex} {bound bound' : OperandIndex → Prop} {index : OperandIndex}

theorem tracks_empty : Tracks partition tensors [] [] [] (Builder.Bound {}) where
  given_eq := rfl
  written := fun _ written => absurd written Host.not_written_nil
  provided := nofun
  origin := nofun

section Asking

variable (tracks : Tracks partition tensors earlier asked given bound)
  (first : index ∉ asked → partition.nodesBefore index = earlier)

include tracks

/-- An operand is asked for that is not fed here: it has been asked for, or nothing feeds it. -/
theorem Tracks.unfed (unfed : index ∈ asked ∨ ¬partition.Feeds tensors index)
    (more : ∀ other, bound other → bound' other)
    (only : ∀ other, bound' other → other = index ∨ bound other)
    (provides : index ∈ partition.inputs → bound' index) :
    Tracks partition tensors earlier (asked ++ [index]) given bound' := by
  have idle : ¬(index ∉ asked ∧ decide (partition.Feeds tensors index) = true) := by
    rintro ⟨fresh, feeds⟩
    rcases unfed with seen | foreign
    · exact fresh seen
    · exact foreign (of_decide_eq_true feeds)
  constructor
  · rw [filter_eraseDups_concat, if_neg idle, List.append_nil, ← tracks.given_eq]
  · intro other written
    exact more other (tracks.written other written)
  · intro other member given
    rcases List.mem_append.1 member with before | last
    · exact more other (tracks.provided other before given)
    · cases List.mem_singleton.1 last
      exact provides given
  · intro other held
    rcases only other held with rfl | before
    · exact .inr (List.mem_append_right _ (List.mem_singleton.2 rfl))
    · exact (tracks.origin other before).imp_right (List.mem_append_left _)

include first

theorem Tracks.again (held : bound index) :
    Tracks partition tensors earlier (asked ++ [index]) given bound := by
  refine tracks.unfed ?_ (fun _ before => before) (fun _ => .inr) fun _ => held
  by_cases seen : index ∈ asked
  · exact .inl seen
  · right
    rintro ⟨_, _, unwritten⟩
    rw [first seen] at unwritten
    exact unwritten ((tracks.origin index held).resolve_right seen)

/-- An operand is asked for that the host feeds. -/
theorem Tracks.fed (unbound : ¬bound index) (member : index ∈ partition.inputs)
    (mutable : ¬IsWeights tensors index) (bind : ∀ other, bound' other ↔ other = index ∨ bound other) :
    Tracks partition tensors earlier (asked ++ [index]) (given ++ [index]) bound' := by
  have fresh : index ∉ asked := fun seen => unbound (tracks.provided index seen member)
  have feeds : partition.Feeds tensors index := by
    refine ⟨member, mutable, ?_⟩
    rw [first fresh]
    exact fun written => unbound (tracks.written index written)
  constructor
  · rw [filter_eraseDups_concat, if_pos ⟨fresh, decide_eq_true feeds⟩, ← tracks.given_eq]
  · intro other written
    exact (bind other).2 (.inr (tracks.written other written))
  · intro other member given
    rcases List.mem_append.1 member with before | last
    · exact (bind other).2 (.inr (tracks.provided other before given))
    · exact (bind other).2 (.inl (List.mem_singleton.1 last))
  · intro other held
    rcases (bind other).1 held with rfl | before
    · exact .inr (List.mem_append_right _ (List.mem_singleton.2 rfl))
    · exact (tracks.origin other before).imp_right (List.mem_append_left _)

end Asking

theorem Tracks.write (tracks : Tracks partition tensors earlier asked given bound)
    {node : ScheduledNode} (output : node.outputs.head? = some index)
    (bind : ∀ other, bound' other ↔ other = index ∨ bound other) :
    Tracks partition tensors (earlier ++ [node]) asked given bound' := by
  refine ⟨tracks.given_eq, ?_, ?_, ?_⟩
  · intro other written
    rcases Host.written_append_singleton.1 written with before | here
    · exact (bind other).2 (.inr (tracks.written other before))
    · rw [output] at here
      exact (bind other).2 (.inl (Option.some.inj here).symm)
  · intro other member given
    exact (bind other).2 (.inr (tracks.provided other member given))
  · intro other held
    rw [Host.written_append_singleton]
    rcases (bind other).1 held with rfl | before
    · exact .inl (.inr output)
    · exact (tracks.origin other before).imp_left .inl

end Tracking

/-! ## Parameters -/

def ParameterOf (tensors : TensorContext) (graph : Graph) (index : OperandIndex) (id : NodeId) : Prop :=
  ∃ tensor shape elementType, tensors.get? index = some tensor ∧
    Layout.shape tensor.dims = .ok shape ∧ Layout.elementType tensor.tensorType = .ok elementType ∧
    graph.node? id = some ⟨id, .parameter, [], shape, elementType⟩

theorem ParameterOf.mono {tensors : TensorContext} {graph longer : Graph} (grown : graph.Extends longer)
    {index : OperandIndex} {id : NodeId} (stands : ParameterOf tensors graph index id) :
    ParameterOf tensors longer index id := by
  obtain ⟨tensor, shape, elementType, known, shaped, typed, found⟩ := stands
  exact ⟨tensor, shape, elementType, known, shaped, typed, grown.node? found⟩

namespace Builder

variable {tensors : TensorContext} {given : List OperandIndex} {builder after : Builder}
  {graph : Graph} {registry : Registry} {parameters : List NodeId} {index : OperandIndex}
  {id : NodeId} {tensor : Tensor}

/-- The parameters of the graph are those of the operands that have been given back. -/
structure Keyed (tensors : TensorContext) (given : List OperandIndex) (builder : Builder) : Prop where
  live : builder.registry.Live builder.graph
  parameters_eq : builder.parameters = builder.graph.parameterIds
  stand : List.Forall₂ (ParameterOf tensors builder.graph) given builder.parameters
  results_eq : builder.results = []

theorem keyed_empty : Keyed tensors [] {} :=
  ⟨nofun, rfl, .nil, rfl⟩

section Binding

variable (leaves : builder.Leaves after graph registry parameters)
  (bind : ∀ other, registry.node? other = (builder.registry.bind index id).node? other)

include leaves bind

theorem Leaves.bound_iff (other : OperandIndex) :
    after.Bound other ↔ other = index ∨ builder.Bound other := by
  rw [Bound, leaves.registry_eq, bind]
  by_cases same : other = index
  · subst same
    rw [Registry.node?_bind_self]
    exact ⟨fun _ => .inl rfl, fun _ => ⟨id, rfl⟩⟩
  · rw [Registry.node?_bind_of_ne _ _ _ same]
    exact ⟨.inr, fun held => held.resolve_left same⟩

theorem Leaves.live (live : builder.registry.Live builder.graph)
    (grown : builder.graph.Extends graph) (below : id < graph.size) :
    after.registry.Live after.graph := by
  intro other id' held
  rw [leaves.registry_eq, bind] at held
  rw [leaves.graph_eq]
  by_cases same : other = index
  · subst same
    rw [Registry.node?_bind_self] at held
    cases held
    exact below
  · rw [Registry.node?_bind_of_ne _ _ _ same] at held
    exact Nat.lt_of_lt_of_le (live other id' held) grown.size_le

end Binding

/-- Nodes are added and one is bound; no parameter is among them. -/
theorem Keyed.bind (keyed : builder.Keyed tensors given)
    (leaves : builder.Leaves after graph (builder.registry.bind index id) [])
    (grown : builder.graph.Extends graph) (below : id < graph.size)
    (same : graph.parameterIds = builder.graph.parameterIds) : after.Keyed tensors given := by
  have parameters : after.parameters = builder.parameters := by
    rw [leaves.parameters_eq, List.append_nil]
  refine ⟨leaves.live (fun _ => rfl) keyed.live grown below, ?_, ?_,
    leaves.results_eq.trans keyed.results_eq⟩
  · rw [parameters, keyed.parameters_eq, leaves.graph_eq, same]
  · rw [parameters, leaves.graph_eq]
    exact keyed.stand.imp fun _ _ stands => stands.mono grown

theorem Keyed.registerConstant (keyed : builder.Keyed tensors given)
    (ran : registerConstant tensor index builder = .ok () after) :
    after.Keyed tensors given ∧ ∀ other, after.Bound other ↔ other = index ∨ builder.Bound other := by
  obtain ⟨elementType, shape, data, _, _, leaves⟩ := registerConstant_leaves ran
  refine ⟨keyed.bind leaves (Graph.extends_push _ _ _ _) ?_ ?_, leaves.bound_iff fun _ => rfl⟩
  · rw [Graph.size_push]
    exact Nat.lt_succ_self _
  · rw [Graph.parameterIds_push, if_neg nofun, List.append_nil]

section Conversion

variable {shape : Shape} {elementType : ElementType} {draft : Draft}
  (converted : Layout.toEngine tensor.dims builder.graph.size
    (builder.withParameter elementType shape) = .ok id draft)

include converted

/-- The parameter comes first, and the nodes that convert it are none. -/
theorem gains_of_converted : (builder.withParameter elementType shape).Gains draft id :=
  Layout.gains_of_toEngine
    (Graph.lt_size_of_node? (Graph.node?_push_self builder.graph .parameter [] (shape, elementType)))
    converted

theorem extends_of_converted : builder.graph.Extends draft.graph :=
  (Graph.extends_push builder.graph .parameter [] (shape, elementType)).trans
    (gains_of_converted converted).longer

end Conversion

theorem Keyed.registerInput (keyed : builder.Keyed tensors given)
    (known : tensors.get? index = some tensor)
    (ran : registerInput tensor index builder = .ok () after) :
    after.Keyed tensors (given ++ [index]) ∧
      ∀ other, after.Bound other ↔ other = index ∨ builder.Bound other := by
  obtain ⟨elementType, shape, id, draft, typed, converted, leaves⟩ := registerInput_leaves ran
  obtain ⟨_, _, _, element, shaped⟩ := inputType_eq_ok.1 typed
  have bind : ∀ other, ((builder.registry.bind index id).flag index).node? other =
      (builder.registry.bind index id).node? other := fun _ => rfl
  have added := Graph.node?_push_self builder.graph .parameter [] (shape, elementType)
  have gains := gains_of_converted converted
  have grown := extends_of_converted converted
  refine ⟨⟨leaves.live bind keyed.live grown gains.below, ?_, ?_,
    leaves.results_eq.trans keyed.results_eq⟩, leaves.bound_iff bind⟩
  · rw [leaves.parameters_eq, leaves.graph_eq, gains.parameters, keyed.parameters_eq]
    exact (Graph.parameterIds_push builder.graph .parameter [] (shape, elementType)).symm
  · rw [leaves.parameters_eq, leaves.graph_eq]
    refine List.rel_append (keyed.stand.imp fun _ _ stands => stands.mono grown) (.cons ?_ .nil)
    exact ⟨tensor, shape, elementType, known, shaped, element, gains.longer.node? added⟩

theorem Keyed.lowerNode (keyed : builder.Keyed tensors given) {node : ScheduledNode}
    (ran : lowerNode node.id node tensors builder = .ok () after) :
    after.Keyed tensors given ∧ ∃ output, node.outputs.head? = some output ∧
      ∀ other, after.Bound other ↔ other = output ∨ builder.Bound other := by
  obtain ⟨output, recipe, result, draft, known, emitted, leaves⟩ := lowerNode_leaves ran
  have gains := Recipe.gains_of_emit keyed.live emitted
  exact ⟨keyed.bind leaves gains.longer gains.below gains.parameters, output,
    (target_eq_ok.1 known).2.1, leaves.bound_iff fun _ => rfl⟩

end Builder

/-! ## Schedules -/

structure Follows (partition : Partition) (tensors : TensorContext) (earlier : List ScheduledNode)
    (asked given : List OperandIndex) (builder : Builder) : Prop where
  keyed : builder.Keyed tensors given
  tracks : Tracks partition tensors earlier asked given builder.Bound

section Schedules

variable {partition : Partition} {tensors : TensorContext} {earlier : List ScheduledNode}
  {asked given more : List OperandIndex} {builder after : Builder}

theorem Follows.materialize {index : OperandIndex}
    (follows : Follows partition tensors earlier asked given builder)
    (first : index ∉ asked → partition.nodesBefore index = earlier)
    (ran : partition.materialize tensors index builder = .ok more after) :
    Follows partition tensors earlier (asked ++ [index]) (given ++ more) after := by
  obtain ⟨keyed, tracks⟩ := follows
  cases materialize_eq_ok.1 ran with
  | bound held =>
    rw [List.append_nil]
    exact ⟨keyed, tracks.again first held⟩
  | weights unbound known kept ran =>
    obtain ⟨keyed', bound⟩ := keyed.registerConstant ran
    rw [List.append_nil]
    refine ⟨keyed', tracks.unfed ?_ ?_ (fun other => (bound other).1) ?_⟩
    · exact .inr fun feeds => feeds.2.1 ((isWeights_iff known).2 kept)
    · exact fun other held => (bound other).2 (.inr held)
    · exact fun _ => (bound index).2 (.inl rfl)
  | input unbound known mutable member ran =>
    obtain ⟨keyed', bound⟩ := keyed.registerInput known ran
    refine ⟨keyed', tracks.fed first ?_ member ?_ bound⟩
    · rintro ⟨id, held⟩
      rw [unbound] at held
      cases held
    · exact fun weights => mutable ((isWeights_iff known).1 weights)
  | foreign unbound known mutable apart =>
    rw [List.append_nil]
    refine ⟨keyed, tracks.unfed ?_ (fun _ held => held) (fun _ => .inr) ?_⟩
    · exact .inr fun feeds => apart feeds.1
    · exact fun member => absurd member apart

theorem Follows.materializeAll {indices : List OperandIndex}
    (follows : Follows partition tensors earlier asked given builder)
    (first : ∀ index ∈ indices, index ∉ asked → partition.nodesBefore index = earlier)
    (ran : partition.materializeAll tensors indices builder = .ok more after) :
    Follows partition tensors earlier (asked ++ indices) (given ++ more) after := by
  -- a request that repeats an earlier one of the run asks nothing of the schedule
  refine (materializeAll_keeps
    (fun asked' given' here => asked ⊆ asked' ∧ Follows partition tensors earlier asked' given' here)
    ?_ asked given ⟨List.Subset.refl _, follows⟩ ran).2
  rintro index member asked' given' more' between next ⟨longer, follows'⟩ ran
  exact ⟨List.subset_append_of_subset_left _ longer,
    follows'.materialize (fun fresh => first index member fun seen => fresh (longer seen)) ran⟩

abbrev FollowsNodes (partition : Partition) (tensors : TensorContext) (earlier : List ScheduledNode)
    (given : List OperandIndex) (builder : Builder) : Prop :=
  Follows partition tensors earlier (earlier.flatMap ScheduledNode.neededInputs) given builder

theorem FollowsNodes.lowerNode {node : ScheduledNode} {later : List ScheduledNode}
    (follows : FollowsNodes partition tensors earlier given builder)
    (split : partition.nodes = earlier ++ node :: later)
    (ran : partition.lowerNode tensors node builder = .ok more after) :
    FollowsNodes partition tensors (earlier ++ [node]) (given ++ more) after := by
  obtain ⟨_, between, registered, lowered⟩ := partition_lowerNode_eq_ok.1 ran
  have first : ∀ index ∈ node.neededInputs, index ∉ earlier.flatMap ScheduledNode.neededInputs →
      partition.nodesBefore index = earlier :=
    fun index needed fresh => Partition.nodesBefore_eq split needed fresh
  obtain ⟨keyed, tracks⟩ := follows.materializeAll first registered
  obtain ⟨keyed', output, head, bound⟩ := keyed.lowerNode lowered
  have asked : (earlier ++ [node]).flatMap ScheduledNode.neededInputs =
      earlier.flatMap ScheduledNode.neededInputs ++ node.neededInputs := by
    rw [List.flatMap_append, List.flatMap_singleton]
  refine ⟨keyed', ?_⟩
  rw [asked]
  exact tracks.write head bound

theorem FollowsNodes.lowerNodes {later : List ScheduledNode}
    (follows : FollowsNodes partition tensors earlier given builder)
    (split : partition.nodes = earlier ++ later)
    (ran : partition.lowerNodes tensors later builder = .ok more after) :
    FollowsNodes partition tensors partition.nodes (given ++ more) after :=
  lowerNodes_keeps (FollowsNodes partition tensors)
    (fun split follows ran => follows.lowerNode split ran) earlier given split follows ran

end Schedules

/-! ## Results -/

/-- What is given back for an operand: its node, or a transpose of it into the host's layout where it is an
image. -/
def ResultOf (registry : Registry) (graph : Graph) (index : OperandIndex) (result : NodeId) : Prop :=
  ∃ id node, registry.node? index = some id ∧ graph.node? id = some node ∧
    ((node.rank ≠ 4 ∧ result = id) ∨
      node.rank = 4 ∧ ∃ order shape elementType,
        graph.node? result = some ⟨result, .transpose, [id, order], shape, elementType⟩ ∧
          graph.integers? order = some [0, 2, 3, 1])

section Results

variable {tensors : TensorContext} {given : List OperandIndex} {builder after : Builder}

theorem ResultOf.mono {registry : Registry} {graph longer : Graph} (grown : graph.Extends longer)
    {index : OperandIndex} {result : NodeId} (shown : ResultOf registry graph index result) :
    ResultOf registry longer index result := by
  obtain ⟨id, node, bound, found, plain | ⟨image, order, shape, type, transposed, integers⟩⟩ := shown
  · exact ⟨id, node, bound, grown.node? found, .inl plain⟩
  · have integers' : longer.integers? order = some [0, 2, 3, 1] := by
      obtain ⟨constant, held, read⟩ := Option.bind_eq_some_iff.1 integers
      rw [Graph.integers?, grown.node? held, Option.bind_some, read]
    exact ⟨id, node, bound, grown.node? found,
      .inr ⟨image, order, shape, type, grown.node? transposed, integers'⟩⟩

theorem Builder.Keyed.resultNode (keyed : builder.Keyed tensors given) {index : OperandIndex}
    {result : NodeId} (ran : Builder.resultNode index builder = .ok result after) :
    after.Keyed tensors given ∧ builder.graph.Extends after.graph ∧
      after.registry = builder.registry ∧ ResultOf builder.registry after.graph index result := by
  obtain ⟨id, held, shape⟩ := Builder.resultNode_eq_ok.1 ran
  have below := keyed.live index id held
  obtain ⟨node, found⟩ := Graph.exists_node?_of_lt_size below
  rcases shape with ⟨image, draft, turned, rfl⟩ | ⟨plain, rfl, rfl⟩
  · have image : node.rank = 4 := by simpa [found] using image
    have gains := Layout.gains_of_toHost below turned
    obtain ⟨_, transposed⟩ := Layout.of_toHost turned
    refine ⟨⟨?_, ?_, ?_, keyed.results_eq⟩, gains.longer, rfl, id, node, held,
      gains.longer.node? found, .inr ⟨image, transposed⟩⟩
    · exact fun other id' held => Nat.lt_of_lt_of_le (keyed.live other id' held) gains.longer.size_le
    · exact keyed.parameters_eq.trans gains.parameters.symm
    · exact keyed.stand.imp fun _ _ stands => stands.mono gains.longer
  · have plain : node.rank ≠ 4 := by simpa [found] using plain
    exact ⟨keyed, .refl _, rfl, _, node, held, found, .inl ⟨plain, rfl⟩⟩

theorem Builder.Keyed.resultNodes {indices : List OperandIndex} :
    ∀ {builder after : Builder} {results : List NodeId}, builder.Keyed tensors given →
      Builder.resultNodes indices builder = .ok results after →
      after.Keyed tensors given ∧ builder.graph.Extends after.graph ∧
        List.Forall₂ (ResultOf builder.registry after.graph) indices results := by
  induction indices with
  | nil =>
    intro builder after results keyed ran
    cases ran
    exact ⟨keyed, .refl _, .nil⟩
  | cons index rest ih =>
    intro builder after results keyed ran
    obtain ⟨first, between, here, ran⟩ := run_bind_eq_ok.1 ran
    obtain ⟨others, _, later, last⟩ := run_bind_eq_ok.1 ran
    cases last
    obtain ⟨keyed', grown, registry, shown⟩ := keyed.resultNode here
    obtain ⟨keyed'', grown', shown'⟩ := ih keyed' later
    rw [registry] at shown'
    exact ⟨keyed'', grown.trans grown', .cons (shown.mono grown') shown'⟩

end Results

/-- The operands of a lowered partition are the ones that the host feeds, each once and in order; each has
one parameter of its dims and its element type, and the graph has no others; the results give back, in
order, the nodes last bound to the declared outputs, images in the host's layout. -/
theorem lower_bindings (partition : Partition) (tensors : TensorContext) (settings : Settings)
    (lowered : LoweredPartition) (success : partition.lower tensors settings = .ok lowered) :
    lowered.computeInputs = partition.fedInputs tensors ∧ lowered.computeInputs.Nodup ∧
      List.Forall₂ (ParameterOf tensors lowered.model.graph) lowered.computeInputs
        lowered.model.parameters ∧
      lowered.model.parameters.Pairwise (· < ·) ∧
      (∀ id, id ∈ lowered.model.parameters ↔
        ∃ node, lowered.model.graph.node? id = some node ∧ node.op = .parameter) ∧
      ∃ given built, partition.lowerNodes tensors partition.nodes {} = .ok given built ∧
        List.Forall₂ (ResultOf built.registry lowered.model.graph) partition.outputs
          lowered.model.results := by
  obtain ⟨inputs, built, last, ids, lowers, rfl⟩ := lower_eq_ok.1 success
  have start : FollowsNodes partition tensors [] [] {} := ⟨Builder.keyed_empty, tracks_empty⟩
  obtain ⟨keyed, tracks⟩ := start.lowerNodes rfl lowers.lowered
  obtain ⟨keyed', _, results⟩ := keyed.resultNodes lowers.results
  have fed : inputs = partition.fedInputs tensors := by
    rw [Partition.fedInputs, funext Host.scanned_eq]
    exact tracks.given_eq
  have parameters : last.parameters = last.graph.parameterIds := keyed'.parameters_eq
  refine ⟨fed, ?_, keyed'.stand, ?_, ?_, inputs, built, lowers.lowered, ?_⟩
  · rw [Partition.lowered, fed]
    exact (nodup_eraseDups _).filter _
  · rw [Partition.lowered, parameters]
    exact last.graph.pairwise_parameterIds
  · intro id
    rw [Partition.lowered, parameters]
    exact Graph.mem_parameterIds
  · rw [Partition.lowered, keyed'.results_eq]
    exact results

namespace BindingsExample

def image : Tensor where
  tensorType := .float32
  dims := [1, 2, 3, 2]

def shift : Tensor where
  tensorType := .float32
  dims := [1]
  allocation := .mmapRo
  data := some [0, 0, 128, 63]

def tensors : TensorContext :=
  .ofList [(0, image), (1, shift), (2, image), (3, image)]

def sum (id : Int32) (inputs : List OperandIndex) (output : OperandIndex) : ScheduledNode where
  id
  op := .builtin .add
  inputs
  outputs := [output]
  options := .add ⟨.none⟩

/-- Operand 2 is an input that is written before it is needed, operand 0 one that is written later. -/
def partition : Partition where
  inputs := [3, 2, 0]
  outputs := [2, 1]
  nodes := [sum 0 [0, 1] 2, sum 1 [2, 3] 0, sum 2 [0, 2] 2]

end BindingsExample

open BindingsExample in
theorem lower_bindings_sums :
    ∃ lowered, partition.lower tensors {} = .ok lowered ∧ lowered.computeInputs = [0, 3] ∧
      lowered.model.parameters.length = 2 ∧ lowered.model.results.length = 2 := by
  have succeeds : (partition.lower tensors {}).isOk = true := by decide +kernel
  obtain ⟨lowered, success⟩ := exists_of_isOk succeeds
  obtain ⟨fed, _, parameters, _, _, _, _, _, results⟩ :=
    lower_bindings partition tensors {} lowered success
  have inputs : lowered.computeInputs = [0, 3] := fed.trans (by decide)
  refine ⟨lowered, success, inputs, ?_, results.length_eq.symm⟩
  rw [← parameters.length_eq, inputs]
  rfl

end PartitionLowering
