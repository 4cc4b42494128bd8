import PartitionLowering.Proofs.Engine.Reductions
import PartitionLowering.Proofs.Networks.SingleNode
import PartitionLowering.Proofs.Networks.WeightValues

/-!
Means of an image that the host feeds.  `Averages.of_lower` tells the result of a lowering and
`Averages.lower_ok` when there is one, for entries between minus four and three.  With the rank kept the
host's axes are reduced as they are named by entries that are not negative; axes that are dropped leave the
others in the engine's order (`mean_of_named_axes`).  A negative entry is counted from the end of the engine's
shape (`mean_of_negative_axes`).
-/

set_option autoImplicit false

namespace PartitionLowering

/-- A mean of an image that the host feeds, over the axes that a second operand lists. -/
structure Partition.Averages (partition : Partition) (tensors : TensorContext) (node : ScheduledNode)
    (data listed output : OperandIndex) (keepDims : Bool) (image : Tensor) : Prop where
  lone : partition.Lone node output
  op : node.op = .builtin .mean
  options : node.options = .reducer ⟨keepDims⟩
  inputs : node.inputs = [data, listed]
  fed : FedOperand partition tensors data image

/-- The operand lists axes of an image, some of them from the end. -/
structure Lists (tensors : TensorContext) (listed : OperandIndex) (axes : List Int32) : Prop where
  holds : (tensors.get? listed).bind Tensor.int32Values? = some axes
  range : ∀ axis ∈ axes, -4 ≤ axis ∧ axis ≤ 3

/-! ## Types -/

section Types

variable {axes : List Int32}

theorem mapM_resolveAxis (range : ∀ axis ∈ axes, -4 ≤ axis ∧ axis ≤ 3) :
    ((axes.map Emission.engineAxis).map Int32.toInt).mapM (fun axis => Shape.resolveAxis axis 4) =
      .ok (axes.map Emission.axisOf) := by
  refine Shape.mapM_resolveAxis_eq_ok.2 ⟨?_, ?_⟩
  · intro entry member
    rw [List.map_map] at member
    obtain ⟨axis, listed, rfl⟩ := List.mem_map.1 member
    exact engineAxis_range (range axis listed).1 (range axis listed).2
  · rw [Shape.countedAxes, List.map_map, List.map_map]
    rfl

theorem infer_reduceMean {keepDims : Bool} {shape : Shape} {elementType : ElementType}
    (rank : shape.length = 4) (range : ∀ axis ∈ axes, -4 ≤ axis ∧ axis ≤ 3) :
    (Op.reduceMean keepDims).infer
        [.ofType (shape, elementType), .ofInt32s (axes.map Emission.engineAxis)] =
      .ok (Inference.reduceAxes shape (axes.map Emission.axisOf) keepDims, elementType) := by
  have integers : (Node.ofInt32s (axes.map Emission.engineAxis)).integers? =
      some ((axes.map Emission.engineAxis).map Int32.toInt) := Node.integers?_int32 _ _ rfl rfl
  rw [Op.infer_reduceMean integers, Node.rank, Node.shape_ofType, rank, mapM_resolveAxis range, ok_bind,
    Node.elementType_ofType]

theorem meanAxes_eq_ok {scope : Scope} {inputs : List OperandIndex} :
    Emission.meanAxes scope inputs = .ok axes ↔
      axes ≠ [] ∧ ∃ index, inputs[1]? = some index ∧
        (scope.tensors.get? index).bind Tensor.int32Values? = some axes := by
  rw [Emission.meanAxes]
  cases here : inputs[1]? with
  | none => simp
  | some index =>
    cases known : scope.tensors.get? index with
    | none => simp [Scope.tensor, known]
    | some tensor =>
      simp only [Scope.tensor, known, ok_bind, Option.some.injEq, exists_eq_left', Option.bind_some]
      cases values : tensor.int32Values? with
      | none => simp
      | some held =>
        cases held with
        | nil => simp +contextual [eq_comm]
        | cons first rest => simp +contextual [eq_comm]

end Types

/-! ## Lowerings -/

namespace Partition.Averages

variable {partition : Partition} {tensors : TensorContext} {settings : Settings}
  {node : ScheduledNode} {data listed output : OperandIndex} {keepDims : Bool} {image : Tensor}
  {lowered : LoweredPartition} {axes : List Int32} {batch height width channels : Nat}
  (averages : partition.Averages tensors node data listed output keepDims image)

include averages

theorem known_recipe : Recipe.ofOpCode node.op = .ok .mean := by
  rw [averages.op]
  rfl

theorem accepted (checked : Support.check node.op node.inputs node.options tensors = .ok ()) :
    node.Accepted tensors ∧ Support.Admitted tensors data image ∧ image.tensorType = .float32 ∧
      image.rank = 4 := by
  have ruled : Support.rule? node.op node.inputs.length =
      some ⟨[[.float32]], some [[4], [1]]⟩ := by
    rw [averages.op]
    rfl
  have plain : node.op ≠ .builtin .transposeConv := by
    rw [averages.op]
    decide
  have first : node.inputs[0]? = some data := by rw [averages.inputs]; rfl
  obtain ⟨admitted, typed, ranked⟩ := Support.ranked_of_known checked ruled first averages.fed.known
  exact ⟨accepted_of_ranked checked ruled plain, admitted, List.mem_singleton.1 (typed _ rfl),
    List.mem_singleton.1 (ranked _ rfl)⟩

/-- The type of a mean: the engine's image, reduced along the axes that the entries come to name. -/
theorem typeOf_eq_ok (accepted : node.Accepted tensors)
    (shape : image.hostShape = [batch, height, width, channels]) (lists : Lists tensors listed axes)
    {builder : Builder} (supplied : Supplied partition tensors node.inputs builder)
    {type : OutputType} {uses : List FilterUse} :
    builder.typeOf tensors node .mean = .ok (type, uses) ↔
      axes ≠ [] ∧ uses = [] ∧ type =
        (Inference.reduceAxes [batch, channels, height, width] (axes.map Emission.axisOf) keepDims,
          .f32) := by
  obtain ⟨_, admitted, float, _⟩ := averages.accepted accepted.checked
  have first : node.inputs[0]? = some data := by rw [averages.inputs]; rfl
  have second : node.inputs[1]? = some listed := by rw [averages.inputs]; rfl
  obtain ⟨elementType, element, held, reads, typed⟩ :=
    supplied.data first admitted averages.fed
  rw [float] at element
  cases element
  have engine : Layout.engineShape image.hostShape = [batch, channels, height, width] := by
    rw [shape]
    rfl
  have inferred : (Op.reduceMean keepDims).infer
      [.ofType ([batch, channels, height, width], .f32), .ofInt32s (axes.map Emission.engineAxis)] =
        .ok (Inference.reduceAxes [batch, channels, height, width] (axes.map Emission.axisOf) keepDims,
          .f32) := infer_reduceMean rfl lists.range
  have typing : ∀ scope graph, Recipe.mean.typing scope graph node.inputs node.options =
      Typing.mean scope graph node.inputs (.reducer ⟨keepDims⟩) := by
    intro scope graph
    rw [averages.options]
    rfl
  rw [Builder.typeOf, typing, Typing.mean, reads.input, lift_ok_bind, Typing.lift_bind_run_eq_ok]
  constructor
  · rintro ⟨axes', found, ran⟩
    obtain ⟨given, index, here, same⟩ := meanAxes_eq_ok.1 found
    rw [second] at here
    cases here
    rw [lists.holds] at same
    cases same
    rw [op_data, typed, engine, Typing.plain_op_run_eq_ok rfl, inferred] at ran
    obtain ⟨same, none⟩ := ran
    exact ⟨given, none, (Except.ok.inj same).symm⟩
  · rintro ⟨given, rfl, rfl⟩
    refine ⟨axes, meanAxes_eq_ok.2 ⟨given, listed, second, lists.holds⟩, ?_⟩
    rw [op_data, typed, engine, Typing.plain_op_run_eq_ok rfl, inferred]
    exact ⟨rfl, rfl⟩

def resultShape (keepDims : Bool) (axes : List Int32) (batch height width channels : Nat) : Shape :=
  if keepDims then
    Host.collapse (axes.map Host.reducedAxis) [batch, height, width, channels]
  else
    Host.surviving (axes.map Host.reducedAxis) [(0, batch), (3, channels), (1, height), (2, width)]

theorem of_lower (shape : image.hostShape = [batch, height, width, channels])
    (lists : Lists tensors listed axes) (ran : partition.lower tensors settings = .ok lowered) :
    axes ≠ [] ∧ partition.Ready tensors node ∧
      lowered.Returns output (resultShape keepDims axes batch height width channels) := by
  obtain ⟨accepted, _⟩ := averages.accepted (averages.lone.checked_of_lower ran)
  obtain ⟨ready, between, type, uses, supplied, told, returns⟩ :=
    averages.lone.of_lower accepted averages.known_recipe ran
  obtain ⟨given, _, rfl⟩ := (averages.typeOf_eq_ok accepted shape lists supplied).1 told
  refine ⟨given, ready, ?_⟩
  have renumbered : (axes.map Emission.axisOf).map Layout.hostAxis = axes.map Host.reducedAxis :=
    List.map_map
  cases keepDims with
  | true => rwa [channelsLast_reduceAxes, renumbered] at returns
  | false =>
    have reduced : ∃ axis ∈ axes.map Emission.axisOf, axis < 4 := by
      obtain ⟨first, member⟩ := List.exists_mem_of_ne_nil axes given
      obtain ⟨low, high⟩ := lists.range first member
      exact ⟨_, List.mem_map_of_mem member, axisOf_lt low high⟩
    rwa [channelsLast_reduceAxes_drop reduced, renumbered] at returns

theorem lower_ok (accepted : node.Accepted tensors)
    (shape : image.hostShape = [batch, height, width, channels]) (lists : Lists tensors listed axes)
    (given : axes ≠ []) (ready : partition.Ready tensors node) :
    ∃ lowered, partition.lower tensors settings = .ok lowered := by
  apply averages.lone.lower_ok accepted averages.known_recipe ready
  intro between supplied
  exact ⟨_, [], (averages.typeOf_eq_ok accepted shape lists supplied).2 ⟨given, rfl, rfl⟩⟩

end Partition.Averages

/-! ## Axes from the front -/

/-- Entries that are not negative name the host's axes.  A mean that keeps the rank reduces these axes.  One
that drops them leaves the others with the channels in front of height and width, which is the host's order
where the channels are dropped too, or where the extents that are left behind them equal theirs. -/
theorem mean_of_named_axes {partition : Partition} {tensors : TensorContext} {settings : Settings}
    {node : ScheduledNode} {data listed output : OperandIndex} {keepDims : Bool} {image : Tensor}
    {batch height width channels : Nat} {axes : List Int32} {lowered : LoweredPartition}
    (averages : partition.Averages tensors node data listed output keepDims image)
    (shape : image.hostShape = [batch, height, width, channels])
    (holds : (tensors.get? listed).bind Tensor.int32Values? = some axes)
    (range : ∀ axis ∈ axes, 0 ≤ axis ∧ axis ≤ 3)
    (ran : partition.lower tensors settings = .ok lowered) :
    (keepDims = true → lowered.Returns output
        (Host.collapse (axes.map Host.axisOf) [batch, height, width, channels])) ∧
      (keepDims = false → lowered.Returns output
          (Host.surviving (axes.map Host.axisOf)
            [(0, batch), (3, channels), (1, height), (2, width)]) ∧
        (lowered.Returns output (Host.drop (axes.map Host.axisOf) [batch, height, width, channels]) ↔
          3 ∈ axes.map Host.axisOf ∨
            ((1 ∉ axes.map Host.axisOf → height = channels) ∧
              (2 ∉ axes.map Host.axisOf → width = channels)))) := by
  have lists : Lists tensors listed axes := by
    refine ⟨holds, fun axis member => ?_⟩
    obtain ⟨valid, high⟩ := range axis member
    exact ⟨Int32.le_trans (by decide) valid, high⟩
  have named : axes.map Host.reducedAxis = axes.map Host.axisOf := by
    apply List.map_congr_left
    intro axis member
    obtain ⟨valid, high⟩ := range axis member
    exact reducedAxis_of_valid valid high
  obtain ⟨_, _, returns⟩ := averages.of_lower shape lists ran
  rw [Partition.Averages.resultShape, named] at returns
  constructor
  · rintro rfl
    exact returns
  · rintro rfl
    refine ⟨returns, ?_⟩
    rw [← Host.surviving_eq_iff]
    exact returns.iff_eq (averages.lone.declared_of_lower ran)

/-! ### Means of one image -/

namespace MeanExample

def image : Tensor where
  tensorType := .float32
  dims := [2, 3, 4, 5]

def axes (entries : List Int32) : Tensor :=
  .constantInt32 [.ofNat entries.length] entries

def tensors (entries : List Int32) : TensorContext :=
  .ofList [(0, image), (1, axes entries)]

def node (keepDims : Bool) : ScheduledNode where
  id := 0
  op := .builtin .mean
  inputs := [0, 1]
  outputs := [2]
  options := .reducer ⟨keepDims⟩

def partition (keepDims : Bool) : Partition where
  inputs := [0]
  outputs := [2]
  nodes := [node keepDims]

theorem averages (keepDims : Bool) (entries : List Int32) :
    (partition keepDims).Averages (tensors entries) (node keepDims) 0 1 2 keepDims image where
  lone := ⟨rfl, rfl, List.mem_singleton.2 rfl⟩
  op := rfl
  options := rfl
  inputs := rfl
  fed := ⟨rfl, Allocation.noConfusion, List.mem_singleton.2 rfl⟩

end MeanExample

open MeanExample in
/-- Without the channels the host's order is left. -/
theorem mean_of_named_axes_channels :
    ((tensors [3, 0, 3]).get? 1).bind Tensor.int32Values? = some [3, 0, 3] ∧
      (∀ axis ∈ ([3, 0, 3] : List Int32), 0 ≤ axis ∧ axis ≤ 3) ∧
      ∃ lowered, (partition false).lower (tensors [3, 0, 3]) {} = .ok lowered ∧
        lowered.Returns 2 (Host.drop [3, 0, 3] [2, 3, 4, 5]) := by
  have holds : ((tensors [3, 0, 3]).get? 1).bind Tensor.int32Values? = some [3, 0, 3] := by decide
  have range : ∀ axis ∈ ([3, 0, 3] : List Int32), 0 ≤ axis ∧ axis ≤ 3 := by
    intro axis member
    simp only [List.mem_cons, List.not_mem_nil, or_false] at member
    rcases member with rfl | rfl | rfl <;> decide
  have succeeds : ((partition false).lower (tensors [3, 0, 3]) {}).isOk = true := by decide +kernel
  obtain ⟨lowered, ran⟩ := exists_of_isOk succeeds
  obtain ⟨_, dropped⟩ := mean_of_named_axes (averages false [3, 0, 3]) rfl holds range ran
  obtain ⟨_, hosted⟩ := dropped rfl
  exact ⟨holds, range, lowered, ran, hosted.2 (.inl (by decide))⟩

open MeanExample in
/-- Without the batch the channels stand in front of height and width. -/
theorem dropped_batch_leaves_channels_first :
    (partition false).Averages (tensors [0]) (node false) 0 1 2 false image ∧
      ((tensors [0]).get? 1).bind Tensor.int32Values? = some [0] ∧
      ∃ lowered, (partition false).lower (tensors [0]) {} = .ok lowered ∧
        lowered.resultShape? 0 = some [5, 3, 4] ∧
        ¬lowered.Returns 2 (Host.drop [0] [2, 3, 4, 5]) := by
  refine ⟨averages false [0], by decide, ?_⟩
  have found : ((partition false).lower (tensors [0]) {}).toOption.bind
      (LoweredPartition.resultShape? · 0) = some [5, 3, 4] := by decide +kernel
  obtain ⟨lowered, ran, shown, only⟩ := exists_of_resultShape? found rfl
  exact ⟨lowered, ran, shown, fun returns => absurd (only _ returns) (by decide)⟩

/-! ## Axes from the end -/

def Tensor.holding (tensor : Tensor) (values : List Int32) : Tensor :=
  { tensor with
    tensorType := .int32
    data := some (values.flatMap LittleEndian.encodeInt32) }

theorem Tensor.int32Values?_holding (tensor : Tensor) (values : List Int32) :
    (tensor.holding values).int32Values? = some values := by
  have typed : (tensor.holding values).tensorType = .int32 := rfl
  have held : (tensor.holding values).data = some (values.flatMap LittleEndian.encodeInt32) := rfl
  rw [Tensor.int32Values?, if_pos typed, held, Option.map_some, LittleEndian.map_int32_groups]

theorem Tensor.SameBut.refl (hidden : List TensorType) (tensor : Tensor) :
    tensor.SameBut hidden tensor := by
  refine ⟨rfl, rfl, rfl, ?_⟩
  cases tensor.data with
  | none => exact .none
  | some payload => exact .some ⟨rfl, fun _ => rfl⟩

theorem Tensor.holding_sameBut (tensor : Tensor) {values values' : List Int32}
    (lengths : values.length = values'.length) :
    (tensor.holding values).SameBut TensorType.all (tensor.holding values') := by
  refine ⟨rfl, rfl, rfl, .some ⟨?_, fun shown => absurd ?_ shown⟩⟩
  · simp [List.length_flatMap, lengths]
  · change TensorType.int32 ∈ TensorType.all
    decide

section Payloads

variable {partition : Partition} {tensors tensors' : TensorContext} {index : OperandIndex}
  {tensor tensor' : Tensor} {hidden : List TensorType} {node : ScheduledNode}

/-- Whether an operand can be had does not depend on the bytes that it holds. -/
theorem Partition.Obtains.of_sameBut (obtains : partition.Obtains tensors index)
    (admitted : Support.Admitted tensors index tensor)
    (admitted' : Support.Admitted tensors' index tensor') (same : tensor.SameBut hidden tensor') :
    partition.Obtains tensors' index := by
  by_cases kept : tensor.allocation = .mmapRo
  · obtain ⟨elementType, shape, data, content, sized⟩ := (obtains_weights admitted.known kept).1 obtains
    rcases alike_constantContent lawful_id same index with
      ⟨value, ⟨elementType', shape', data'⟩, found, found', rfl, rfl, lengths, _⟩ | ⟨_, failed, _⟩
    · rw [content] at found
      cases found
      rw [same.allocation] at kept
      exact (obtains_weights admitted'.known kept).2 ⟨_, _, data', found', by rw [sized, lengths]⟩
    · rw [content] at failed
      cases failed
  · have mutable : tensor'.allocation ≠ .mmapRo := by rwa [← same.allocation]
    by_cases member : index ∈ partition.inputs
    · obtain ⟨type, typed⟩ := (obtains_input admitted kept member).1 obtains
      rcases alike_inputType lawful_id same index with ⟨_, type', _, typed', _⟩ | ⟨_, failed, _⟩
      · exact (obtains_input admitted' mutable member).2 ⟨type', typed'⟩
      · rw [typed] at failed
        cases failed
    · exact obtains_foreign admitted'.known mutable member

theorem check_of_contexts (contexts : Contexts hidden id tensors tensors' node.inputs)
    (checked : Support.check node.op node.inputs node.options tensors = .ok ()) :
    Support.check node.op node.inputs node.options tensors' = .ok () := by
  have alike := alike_check lawful_id node.op node.options contexts
  rw [List.map_id] at alike
  rcases alike with ⟨_, _, _, checked', _⟩ | ⟨_, failed, _⟩
  · exact checked'
  · rw [checked] at failed
    cases failed

theorem Partition.Ready.of_contexts (ready : partition.Ready tensors node)
    (contexts : Contexts hidden id tensors tensors' node.inputs) (accepted : node.Accepted tensors)
    (accepted' : node.Accepted tensors') : partition.Ready tensors' node := by
  refine ⟨ready.valid, ?_, ?_⟩
  · intro index member
    obtain ⟨tensor, admitted⟩ := accepted.admits index member
    obtain ⟨tensor', admitted'⟩ := accepted'.admits index member
    have same := contexts index member
    rw [id, admitted.known, admitted'.known] at same
    cases same with
    | some same => exact (ready.obtains index member).of_sameBut admitted admitted' same
  · intro index declared
    refine (ready.outputs index declared).imp_right fun ⟨member, provided⟩ => ⟨member, ?_⟩
    refine provided.imp_right fun ⟨tensor, known, kept⟩ => ?_
    have same := contexts index member
    rw [known] at same
    rcases rel_cases same with ⟨missing, _⟩ | ⟨_, tensor', here, known', same⟩
    · cases missing
    · cases here
      exact ⟨tensor', known', same.allocation ▸ kept⟩

end Payloads

/-- The entry that names the same axis from the front. -/
def Host.fromFront (entry : Int32) : Int32 :=
  if entry < 0 then entry + 4 else entry

theorem fromFront_valid {entry : Int32} (low : -4 ≤ entry) (high : entry ≤ 3) :
    0 ≤ Host.fromFront entry ∧ Host.fromFront entry ≤ 3 ∧
      Host.axisOf (Host.fromFront entry) = Host.axisOf entry := by
  rcases entry_cases low high with rfl | rfl | rfl | rfl | rfl | rfl | rfl | rfl <;> decide

section Holding

variable {partition : Partition} {tensors : TensorContext} {settings : Settings}
  {node : ScheduledNode} {data listed output : OperandIndex} {keepDims : Bool} {image : Tensor}

theorem Partition.Averages.insert
    (averages : partition.Averages tensors node data listed output keepDims image)
    (apart : data ≠ listed) (holder : Tensor) :
    partition.Averages (tensors.insert listed holder) node data listed output keepDims image where
  lone := averages.lone
  op := averages.op
  options := averages.options
  inputs := averages.inputs
  fed := ⟨by rw [OperandMap.get?_insert_of_ne _ _ apart, averages.fed.known], averages.fed.mutable,
    averages.fed.member⟩

theorem lists_holding (holder : Tensor) {axes : List Int32}
    (range : ∀ axis ∈ axes, -4 ≤ axis ∧ axis ≤ 3) :
    Lists (tensors.insert listed (holder.holding axes)) listed axes := by
  refine ⟨?_, range⟩
  rw [OperandMap.get?_insert_self, Option.bind_some, Tensor.int32Values?_holding]

/-- A mean over other axes, as many of them, is lowered too. -/
theorem Partition.Averages.lower_of_lower
    (averages : partition.Averages tensors node data listed output keepDims image)
    (apart : data ≠ listed) {batch height width channels : Nat}
    (shape : image.hostShape = [batch, height, width, channels]) (holder : Tensor)
    {axes axes' : List Int32} (lengths : axes.length = axes'.length)
    (range : ∀ axis ∈ axes, -4 ≤ axis ∧ axis ≤ 3) (range' : ∀ axis ∈ axes', -4 ≤ axis ∧ axis ≤ 3)
    (success : ∃ lowered,
      partition.lower (tensors.insert listed (holder.holding axes)) settings = .ok lowered) :
    ∃ lowered, partition.lower (tensors.insert listed (holder.holding axes')) settings =
      .ok lowered := by
  obtain ⟨lowered, ran⟩ := success
  have before := averages.insert apart (holder.holding axes)
  have after := averages.insert apart (holder.holding axes')
  -- The contexts differ in the bytes of the axes alone, and only the type of the node depends on those.
  have contexts : Contexts TensorType.all id (tensors.insert listed (holder.holding axes))
      (tensors.insert listed (holder.holding axes')) node.inputs := by
    intro index member
    rw [averages.inputs] at member
    rcases List.mem_pair.1 member with rfl | rfl
    · rw [id, before.fed.known, after.fed.known]
      exact .some (.refl _ image)
    · rw [id, OperandMap.get?_insert_self, OperandMap.get?_insert_self]
      exact .some (holder.holding_sameBut lengths)
  have checked := before.lone.checked_of_lower ran
  obtain ⟨accepted, _⟩ := before.accepted checked
  obtain ⟨accepted', _⟩ := after.accepted (check_of_contexts contexts checked)
  obtain ⟨given, ready, _⟩ := before.of_lower shape (lists_holding holder range) ran
  have given' : axes' ≠ [] := by
    rintro rfl
    exact given (List.eq_nil_of_length_eq_zero lengths)
  exact after.lower_ok accepted' shape (lists_holding holder range') given'
    (ready.of_contexts contexts accepted accepted')

end Holding

/-- Writing negative entries from the front does not change whether a mean that keeps the rank is lowered.
It changes the result where the axis that the lowering reduces for an entry is another one than the host's,
and one of several elements. -/
theorem mean_of_negative_axes {partition : Partition} {tensors : TensorContext} {settings : Settings}
    {node : ScheduledNode} {data listed output : OperandIndex} {image : Tensor}
    {batch height width channels : Nat} {axes : List Int32}
    (averages : partition.Averages tensors node data listed output true image) (apart : data ≠ listed)
    (shape : image.hostShape = [batch, height, width, channels]) (holder : Tensor)
    (range : ∀ axis ∈ axes, -4 ≤ axis ∧ axis ≤ 3) :
    ((∃ lowered, partition.lower (tensors.insert listed (holder.holding axes)) settings =
          .ok lowered) ↔
        ∃ lowered, partition.lower
          (tensors.insert listed (holder.holding (axes.map Host.fromFront))) settings = .ok lowered) ∧
      ∀ lowered lowered',
        partition.lower (tensors.insert listed (holder.holding axes)) settings = .ok lowered →
        partition.lower (tensors.insert listed (holder.holding (axes.map Host.fromFront))) settings =
          .ok lowered' →
        ∀ position, partition.outputs[position]? = some output →
          (lowered.resultShape? position = lowered'.resultShape? position ↔
            ∀ axis extent, [batch, height, width, channels][axis]? = some extent → extent ≠ 1 →
              (axis ∈ axes.map Host.reducedAxis ↔ axis ∈ axes.map Host.axisOf)) := by
  have lengths : axes.length = (axes.map Host.fromFront).length := (List.length_map _).symm
  have front : ∀ axis ∈ axes.map Host.fromFront, 0 ≤ axis ∧ axis ≤ 3 := by
    intro axis member
    obtain ⟨entry, inside, rfl⟩ := List.mem_map.1 member
    obtain ⟨low, high⟩ := range entry inside
    obtain ⟨valid, below, _⟩ := fromFront_valid low high
    exact ⟨valid, below⟩
  have range' : ∀ axis ∈ axes.map Host.fromFront, -4 ≤ axis ∧ axis ≤ 3 := by
    intro axis member
    obtain ⟨valid, high⟩ := front axis member
    exact ⟨Int32.le_trans (by decide) valid, high⟩
  have named : (axes.map Host.fromFront).map Host.reducedAxis = axes.map Host.axisOf := by
    rw [List.map_map]
    apply List.map_congr_left
    intro entry member
    obtain ⟨low, high⟩ := range entry member
    obtain ⟨valid, below, same⟩ := fromFront_valid low high
    exact (reducedAxis_of_valid valid below).trans same
  refine ⟨⟨averages.lower_of_lower apart shape holder lengths range range',
    averages.lower_of_lower apart shape holder lengths.symm range' range⟩, ?_⟩
  intro lowered lowered' ran ran' position declared
  have before := averages.insert apart (holder.holding axes)
  have after := averages.insert apart (holder.holding (axes.map Host.fromFront))
  obtain ⟨_, _, returns⟩ := before.of_lower shape (lists_holding holder range) ran
  obtain ⟨_, _, returns'⟩ := after.of_lower shape (lists_holding holder range') ran'
  have outputs : lowered.outputs = partition.outputs := outputs_of_lower ran
  have outputs' : lowered'.outputs = partition.outputs := outputs_of_lower ran'
  rw [returns position (by rw [outputs, declared]), returns' position (by rw [outputs', declared]),
    Option.some.injEq, Partition.Averages.resultShape, Partition.Averages.resultShape, named]
  exact Host.collapse_eq_iff

open MeanExample in
/-- Width, channels and height, all of them counted from the end, are the same three axes in both layouts. -/
theorem mean_of_negative_axes_image :
    (0 : OperandIndex) ≠ 1 ∧ (∀ axis ∈ ([-2, -1, -3] : List Int32), -4 ≤ axis ∧ axis ≤ 3) ∧
      ∃ lowered lowered',
        (partition true).lower ((tensors []).insert 1 ((axes [0, 0, 0]).holding [-2, -1, -3])) {} =
          .ok lowered ∧
        (partition true).lower
          ((tensors []).insert 1 ((axes [0, 0, 0]).holding ([-2, -1, -3].map Host.fromFront))) {} =
          .ok lowered' ∧
        lowered.resultShape? 0 = lowered'.resultShape? 0 := by
  have apart : (0 : OperandIndex) ≠ 1 := by decide
  have range : ∀ axis ∈ ([-2, -1, -3] : List Int32), -4 ≤ axis ∧ axis ≤ 3 := by
    intro axis member
    simp only [List.mem_cons, List.not_mem_nil, or_false] at member
    rcases member with rfl | rfl | rfl <;> decide
  have succeeds : ((partition true).lower
      ((tensors []).insert 1 ((axes [0, 0, 0]).holding [-2, -1, -3])) {}).isOk = true := by
    decide +kernel
  obtain ⟨lowered, ran⟩ := exists_of_isOk succeeds
  have ⟨lowers, agree⟩ := @mean_of_negative_axes _ _ {} _ _ _ _ _ _ _ _ _ _
    (averages true []) apart rfl (axes [0, 0, 0]) range
  obtain ⟨lowered', ran'⟩ := lowers.1 ⟨lowered, ran⟩
  refine ⟨apart, range, lowered, lowered', ran, ran', (agree lowered lowered' ran ran' 0 rfl).2 ?_⟩
  have reduced : ([-2, -1, -3] : List Int32).map Host.reducedAxis = [1, 2, 3] := by decide
  have named : ([-2, -1, -3] : List Int32).map Host.axisOf = [2, 3, 1] := by decide
  have same : ([1, 2, 3] : List Nat).Perm [2, 3, 1] := by decide
  intro axis extent _ _
  rw [reduced, named]
  exact same.mem_iff

open MeanExample in
/-- The last axis of the host is its channels, and the lowering reduces the width. -/
theorem last_axis_reduces_width :
    (partition true).Averages (tensors [-1]) (node true) 0 1 2 true image ∧
      ∃ lowered lowered', (partition true).lower (tensors [-1]) {} = .ok lowered ∧
        (partition true).lower (tensors ([-1].map Host.fromFront)) {} = .ok lowered' ∧
        lowered.resultShape? 0 = some [2, 3, 1, 5] ∧ lowered'.resultShape? 0 = some [2, 3, 4, 1] := by
  have found : ((partition true).lower (tensors [-1]) {}).toOption.bind
      (LoweredPartition.resultShape? · 0) = some [2, 3, 1, 5] := by decide +kernel
  have found' : ((partition true).lower (tensors ([-1].map Host.fromFront)) {}).toOption.bind
      (LoweredPartition.resultShape? · 0) = some [2, 3, 4, 1] := by decide +kernel
  obtain ⟨lowered, ran, shown⟩ := exists_of_toOption_bind found
  obtain ⟨lowered', ran', shown'⟩ := exists_of_toOption_bind found'
  exact ⟨averages true [-1], lowered, lowered', ran, ran', shown, shown'⟩

end PartitionLowering
