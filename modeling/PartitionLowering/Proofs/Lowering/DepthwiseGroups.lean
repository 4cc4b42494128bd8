import PartitionLowering.Proofs.Engine.Groups
import PartitionLowering.Proofs.Lowering.Calls
import PartitionLowering.Proofs.Lowering.EmissionAlike
import PartitionLowering.Proofs.Lowering.ImageConvolutions
import PartitionLowering.Proofs.Lowering.WeightRoutes

/-!
Depthwise convolutions by registered weights.  The channels of the filter and those of the data have to
come out even twice over, in the split of the filter and in the convolution of the groups; both ask for the
same (`groupedShape_eq_ok`, `Typing.splitFilter_run_eq_ok`).  Main statement: `depthwise_splits_exactly`.
-/

set_option autoImplicit false

namespace PartitionLowering

/-! ## Parameters -/

theorem count_pos {value : Int32} : 0 < Host.count value ↔ 0 < value := by
  have sign : 0 < value ↔ (0 : Int32).toInt < value.toInt := Int32.lt_iff_toInt_lt
  have zero : (0 : Int32).toInt = 0 := rfl
  rw [sign, zero, Host.count]
  omega

/-! ## Splitting the filter -/

section Splitting

variable {channels filters depth rows columns : Nat}

/-- A filter has as many elements in groups as it had before. -/
theorem prod_grouped (shared : channels / depth ∣ filters) :
    List.prod [channels / depth, filters / (channels / depth), depth, rows, columns] =
      List.prod [filters, depth, rows, columns] := by
  simp only [List.prod_cons, List.prod_nil, Nat.mul_one]
  rw [← Nat.mul_assoc, Nat.mul_div_cancel' shared]

theorem prod_filtersFirst :
    List.prod [filters, depth, rows, columns] = List.prod [depth, rows, columns, filters] := by
  have turned : List.Perm ([filters] ++ [depth, rows, columns]) ([depth, rows, columns] ++ [filters]) :=
    List.perm_append_comm
  exact turned.prod_eq

end Splitting

/-! ## The convolution told on types -/

/-- What lets the filter of a depthwise convolution be split into groups and slide over the data. -/
structure DepthwiseConv2dOptions.Fits (options : DepthwiseConv2dOptions) (image kernel : Spatial)
    (channels depth filters : Nat) : Prop where
  even : depth ∣ channels
  shared : channels / depth ∣ filters
  strides : 0 < options.strideHeight ∧ 0 < options.strideWidth
  dilations : 0 < options.dilationHeightFactor ∧ 0 < options.dilationWidthFactor
  padding : options.padding = .same ∨ options.padding = .valid
  window : options.padding = .valid →
    Window.reach kernel.height (Host.count options.dilationHeightFactor) ≤ image.height ∧
      Window.reach kernel.width (Host.count options.dilationWidthFactor) ≤ image.width

def DepthwiseConv2dOptions.attributes (options : DepthwiseConv2dOptions) : ConvAttributes where
  strides := ⟨Host.count options.strideHeight, Host.count options.strideWidth⟩
  dilations := ⟨Host.count options.dilationHeightFactor, Host.count options.dilationWidthFactor⟩
  padMode := options.padding.mode

theorem Padding.mode_eq_valid {padding : Padding} (known : padding = .same ∨ padding = .valid) :
    padding.mode = .valid ↔ padding = .valid := by
  rcases known with rfl | rfl <;> decide

namespace DepthwiseConv2dOptions

variable {options : DepthwiseConv2dOptions} {image kernel : Spatial} {channels depth filters : Nat}

theorem fits_iff :
    options.Fits image kernel channels depth filters ↔
      (depth ∣ channels ∧ channels / depth ∣ filters) ∧
        (0 < options.strideHeight ∧ 0 < options.strideWidth) ∧
        (0 < options.dilationHeightFactor ∧ 0 < options.dilationWidthFactor) ∧
        (options.padding = .same ∨ options.padding = .valid) ∧
        Window.Slides image kernel options.attributes := by
  constructor
  · rintro ⟨even, shared, strides, dilations, padding, window⟩
    refine ⟨⟨even, shared⟩, strides, dilations, padding, ?_, ?_, ?_⟩
    · exact ⟨count_pos.2 strides.1, count_pos.2 strides.2⟩
    · exact ⟨count_pos.2 dilations.1, count_pos.2 dilations.2⟩
    · exact fun valid => window ((Padding.mode_eq_valid padding).1 valid)
  · rintro ⟨⟨even, shared⟩, strides, dilations, padding, slides⟩
    exact ⟨even, shared, strides, dilations, padding,
      fun valid => slides.fits ((Padding.mode_eq_valid padding).2 valid)⟩

end DepthwiseConv2dOptions

namespace Typing

def splitFilter (data : OutputType) (channels : Nat) (filter : OutputType)
    (options : DepthwiseConv2dOptions) : Typing OutputType := do
  let grouped ← Emission.groupedShape channels filter.1
  let filter ← op (.reshape false) [.ofType filter, .ofInt64s (grouped.map Int64.ofNat)]
  let strides ← Fusion.strides .depthwiseConv2d options.strideHeight options.strideWidth
  let dilations ←
    Fusion.dilations .depthwiseConv2d options.dilationHeightFactor options.dilationWidthFactor
  let padMode ← Fusion.padMode options.padding
  op (.groupConvolution ⟨strides, dilations, padMode⟩) [.ofType data, .ofType filter]

section Operands

variable {scope : Scope} {graph : Graph} {inputs : List OperandIndex} {data : OutputType}
  {depth rows columns filters channels : Nat} {dims : List Int32}

/-- A bias that is absent or negative is none. -/
theorem addOptionalBias_of_none (bare : ∀ index, inputs[2]? = some index → index < 0)
    (recipe : Recipe) (producer : OutputType) :
    addOptionalBias scope graph inputs recipe 2 producer = pure producer := by
  have absent : optionalInput scope graph inputs 2 = .ok none := by
    rw [optionalInput, Scope.optionalInput]
    cases here : inputs[2]? with
    | none => rfl
    | some index =>
      have negative : ¬0 ≤ index := Int32.not_le.2 (bare index here)
      simp [negative]
  rw [addOptionalBias, absent]
  rfl

theorem depthwiseConv2d_eq_splitFilter {weights : Node} {options : DepthwiseConv2dOptions}
    (image : scope.Data graph inputs 0 data) (filter : scope.Reads graph inputs 1 weights)
    (shape : weights.shape = [depth, rows, columns, filters])
    (constant : scope.isFlagged inputs 1 = false)
    (bare : ∀ index, inputs[2]? = some index → index < 0)
    (known : scope.dims .depthwiseConv2d inputs 0 = .ok dims)
    (counted : Emission.inputChannels dims = .ok channels) (plain : options.activation = .none) :
    depthwiseConv2d scope graph inputs (.depthwiseConv2d options) =
      splitFilter data channels ([filters, depth, rows, columns], weights.elementType) options := by
  obtain ⟨node, reads, rfl⟩ := image
  have ordered : orderedFilter scope inputs 1 weights =
      pure ([filters, depth, rows, columns], weights.elementType) := by
    apply orderedFilter_eq
    rw [constant, shape]
    rfl
  have idle : ∀ type, activate type options.activation = pure type := by
    intro type
    rw [plain]
    rfl
  rw [depthwiseConv2d, reads.input, filter.input, lift_ok_bind, lift_ok_bind, ordered, pure_bind, known,
    lift_ok_bind, counted, lift_ok_bind, splitFilter]
  simp only [addOptionalBias_of_none bare, idle, op_data _ node, bind_pure]

end Operands

section Runs

variable {batch channels height width depth rows columns filters : Nat}
  {elementType filterType : ElementType} {options : DepthwiseConv2dOptions} {told : OutputType}
  {uses all : List FilterUse}

/-- The split of a filter that is registered has a type where the channels come out even. -/
theorem infer_split (positive : Shape.Positive [depth, rows, columns, filters])
    (counted : Shape.elementCount? [depth, rows, columns, filters] ≠ none)
    (few : channels < Nat.pow 2 31)
    (small : ∀ extent ∈ [filters, depth, rows, columns], extent < Nat.pow 2 31)
    (shared : channels / depth ∣ filters) (filterType : ElementType) :
    (Op.reshape false).infer [.ofType ([filters, depth, rows, columns], filterType),
      .ofInt64s ([channels / depth, filters / (channels / depth), depth, rows, columns].map
        Int64.ofNat)] =
      .ok ([channels / depth, filters / (channels / depth), depth, rows, columns], filterType) := by
  obtain ⟨total, counted⟩ := Option.ne_none_iff_exists'.1 counted
  have before := (Shape.elementCount?_congr positive prod_filtersFirst).trans counted
  have after := (Shape.elementCount?_congr positive
    ((prod_grouped shared).trans prod_filtersFirst)).trans counted
  have reshaped := Shape.reshape_of_plain (plain_ofNat _) before (by rw [map_toNat_ofNat, after])
  rw [map_toNat_ofNat] at reshaped
  exact (infer_reshape_eq_ok (grouped_lt few small)).2 ⟨reshaped, rfl⟩

theorem infer_groups {attributes : ConvAttributes} {groups share : Nat} {type : OutputType} :
    (Op.groupConvolution attributes).infer [.ofType ([batch, channels, height, width], elementType),
      .ofType ([groups, share, depth, rows, columns], filterType)] = .ok type ↔
      (groups * depth = channels ∧ Window.Slides ⟨height, width⟩ ⟨rows, columns⟩ attributes) ∧
        type = (Window.outputShape batch (groups * share) ⟨height, width⟩ ⟨rows, columns⟩ attributes,
          elementType) :=
  Inference.groupConvolution_eq_ok rfl rfl

theorem splitFilter_run_eq_ok (positive : Shape.Positive [depth, rows, columns, filters])
    (counted : Shape.elementCount? [depth, rows, columns, filters] ≠ none)
    (few : channels < Nat.pow 2 31)
    (small : ∀ extent ∈ [filters, depth, rows, columns], extent < Nat.pow 2 31) :
    (splitFilter ([batch, channels, height, width], elementType) channels
        ([filters, depth, rows, columns], filterType) options).run uses = .ok (told, all) ↔
      options.Fits ⟨height, width⟩ ⟨rows, columns⟩ channels depth filters ∧
        told = (Window.outputShape batch filters ⟨height, width⟩ ⟨rows, columns⟩ options.attributes,
          elementType) ∧
        all = uses ++ [⟨.groupConvolution options.attributes,
          some [channels / depth, filters / (channels / depth), depth, rows, columns]⟩] := by
  have some_depth : 0 < depth := positive depth (by simp)
  have plain : (Op.reshape false).isConvolution = false := rfl
  rw [DepthwiseConv2dOptions.fits_iff]
  simp only [splitFilter, lift_bind_run_eq_ok, op_bind_run_eq_ok, groupedShape_eq_ok,
    Fusion.strides, Fusion.dilations, extents_eq_ok, padMode_eq_ok, op_run_eq_ok,
    filterUses_of_plain plain, List.append_nil]
  constructor
  · rintro ⟨_, ⟨⟨_, even, shared⟩, rfl⟩, split, reshaped, _, ⟨strides, rfl⟩, _, ⟨dilations, rfl⟩, _,
      ⟨padding, rfl⟩, inferred, rfl⟩
    cases (infer_split positive counted few small shared filterType).symm.trans reshaped
    obtain ⟨⟨_, slides⟩, rfl⟩ := infer_groups.1 inferred
    rw [Nat.mul_div_cancel' shared]
    exact ⟨⟨⟨even, shared⟩, strides, dilations, padding, slides⟩, rfl, rfl⟩
  · rintro ⟨⟨⟨even, shared⟩, strides, dilations, padding, slides⟩, rfl, rfl⟩
    refine ⟨_, ⟨⟨some_depth, even, shared⟩, rfl⟩, _, infer_split positive counted few small shared filterType, _,
      ⟨strides, rfl⟩, _, ⟨dilations, rfl⟩, _, ⟨padding, rfl⟩, infer_groups.2 ⟨?_, ?_⟩, rfl⟩
    · exact ⟨Nat.div_mul_cancel even, slides⟩
    · rw [Nat.mul_div_cancel' shared]
      rfl

end Runs

/-! ### Failures -/

section Failures

variable {α β : Type}

def Obstructed (typing : Typing α) : Prop :=
  ∀ uses, Obstructs (typing.run uses)

theorem Obstructed.bind {first : Typing α} {next : α → Typing β} (early : Obstructed first)
    (late : ∀ value, Obstructed (next value)) : Obstructed (first >>= next) := by
  intro uses
  rw [StateT.run_bind]
  exact (early uses).bind fun stepped => late stepped.1 stepped.2

theorem obstructed_lift {lookup : Except Failure α} (obstructs : Obstructs lookup) :
    Obstructed (liftM lookup) := by
  intro uses
  exact obstructs.bind fun value => obstructs_ok (value, uses)

theorem obstructed_op (operation : Op) (nodes : List Node) : Obstructed (op operation nodes) := by
  intro uses
  rw [op]
  cases operation.infer nodes with
  | error error => exact obstructs_error (.shape error)
  | ok type => exact obstructs_ok (type, uses ++ operation.filterUses nodes)

theorem obstructed_splitFilter (data : OutputType) (channels : Nat) (filter : OutputType)
    (options : DepthwiseConv2dOptions) : Obstructed (splitFilter data channels filter options) := by
  apply (obstructed_lift (Likeness.obstructs_groupedShape channels filter.1)).bind
  intro grouped
  apply (obstructed_op _ _).bind
  intro split
  apply (obstructed_lift (Likeness.obstructs_extents .depthwiseConv2d _ _ options.strideHeight
    options.strideWidth)).bind
  intro strides
  apply (obstructed_lift (Likeness.obstructs_extents .depthwiseConv2d _ _
    options.dilationHeightFactor options.dilationWidthFactor)).bind
  intro dilations
  apply (obstructed_lift (Likeness.obstructs_padMode options.padding)).bind
  intro padMode
  exact obstructed_op _ _

end Failures

end Typing

/-! ## Nodes -/

theorem Tensor.hostShape_lt (tensor : Tensor) : ∀ extent ∈ tensor.hostShape, extent < Nat.pow 2 31 := by
  intro extent member
  obtain ⟨dim, _, rfl⟩ := List.mem_map.1 member
  exact toNat_lt dim

namespace Builder

/-- An operand was registered with a tensor as a constant, and stands for it still. -/
def HoldsConstant (builder : Builder) (index : OperandIndex) (tensor : Tensor) : Prop :=
  ∃ before after, registerConstant tensor index before = .ok () after ∧
    after.graph.Extends builder.graph ∧ builder.registry.node? index = after.registry.node? index

theorem HoldsConstant.stands {builder : Builder} {index : OperandIndex} {tensor : Tensor}
    (holds : builder.HoldsConstant index tensor) :
    0 ≤ index ∧ (∀ dim ∈ tensor.dims, 0 < dim) ∧ Shape.elementCount? tensor.hostShape ≠ none ∧
      ∃ id node, builder.registry.node? index = some id ∧ builder.graph.node? id = some node ∧
        node.shape = tensor.hostShape := by
  obtain ⟨before, after, ran, grown, bound⟩ := holds
  obtain ⟨elementType, shape, data, content, sized, leaves⟩ := registerConstant_leaves ran
  obtain ⟨valid, _, _, _, shaped, _⟩ := constantContent_eq_ok.1 content
  obtain ⟨positive, rfl⟩ := Layout.shape_eq_ok.1 shaped
  obtain ⟨total, counted, _⟩ := Option.bind_eq_some_iff.1 sized
  have found : after.graph.node? before.graph.size =
      some ⟨before.graph.size, .constant data, [], tensor.hostShape, elementType⟩ := by
    rw [leaves.graph_eq]
    exact Graph.node?_push_self _ _ _ _
  refine ⟨valid, positive, ?_, before.graph.size, _, ?_, grown.node? found, rfl⟩
  · rw [Tensor.hostShape, counted]
    exact Option.some_ne_none total
  · rw [bound, leaves.registry_eq, Registry.node?_bind_self]

/-- A depthwise convolution without a bias and an activation.  Its data stands as an image in the engine's
layout and is known in the host's; its filter was registered as a constant. -/
structure Depthwise (builder : Builder) (tensors : TensorContext) (node : ScheduledNode)
    (options : DepthwiseConv2dOptions) (data : OperandIndex) (elementType : ElementType)
    (image filter : Shape) : Prop where
  op : node.op = .builtin .depthwiseConv2d
  given : node.options = .depthwiseConv2d options
  outputs : node.outputs ≠ []
  plain : options.activation = .none
  bare : ∀ index, node.inputs[2]? = some index → index < 0
  first : node.inputs[0]? = some data
  stands : ∃ id, builder.registry.node? data = some id ∧
    builder.graph.Typed id (image.channelsFirst, elementType)
  known : ∃ tensor, tensors.get? data = some tensor ∧ (∀ dim ∈ tensor.dims, 0 < dim) ∧
    tensor.hostShape = image
  second : ∃ weights tensor, node.inputs[1]? = some weights ∧ builder.HoldsConstant weights tensor ∧
    builder.registry.isFlagged weights = false ∧ tensor.hostShape = filter

namespace Depthwise

variable {builder : Builder} {tensors : TensorContext} {node : ScheduledNode}
  {options : DepthwiseConv2dOptions} {data : OperandIndex} {elementType : ElementType}
  {batch height width channels depth rows columns filters : Nat}
  (depthwise : builder.Depthwise tensors node options data elementType
    [batch, height, width, channels] [depth, rows, columns, filters])

include depthwise

theorem exists_target {id : Int32} (valid : 0 ≤ id) :
    ∃ output, node.outputs.head? = some output ∧ target id node = .ok (output, .depthwiseConv2d) := by
  obtain ⟨output, _, split⟩ := List.exists_cons_of_ne_nil depthwise.outputs
  have head : node.outputs.head? = some output := by rw [split, List.head?_cons]
  refine ⟨output, head, target_eq_ok.2 ⟨valid, head, ?_⟩⟩
  rw [depthwise.op]
  rfl

theorem ends : Ends Graph.Typed
    (Recipe.depthwiseConv2d.emit ⟨builder.registry, tensors⟩ node.inputs node.options) builder.draft
    (Typing.depthwiseConv2d ⟨builder.registry, tensors⟩ builder.graph node.inputs
      (.depthwiseConv2d options)) := by
  rw [depthwise.given]
  apply ends_depthwiseConv2d
  intro position below index id here valid bound
  obtain ⟨source, held, actual, found, _⟩ := depthwise.stands
  obtain ⟨weights, tensor, there, constant, _⟩ := depthwise.second
  obtain ⟨_, _, _, kept, stored, held', found', _⟩ := constant.stands
  have three : position = 0 ∨ position = 1 ∨ position = 2 := by omega
  rcases three with rfl | rfl | rfl
  · cases here.symm.trans depthwise.first
    cases bound.symm.trans held
    exact Graph.lt_size_of_node? found
  · cases here.symm.trans there
    cases bound.symm.trans held'
    exact Graph.lt_size_of_node? found'
  · exact absurd (depthwise.bare index here) (Int32.not_lt.2 valid)

/-- What the filter shows of its extents. -/
theorem filter_extents :
    Shape.Positive [depth, rows, columns, filters] ∧
      Shape.elementCount? [depth, rows, columns, filters] ≠ none ∧
      ∀ extent ∈ [filters, depth, rows, columns], extent < Nat.pow 2 31 := by
  obtain ⟨weights, tensor, _, constant, _, shape⟩ := depthwise.second
  obtain ⟨_, positive, counted, _⟩ := constant.stands
  rw [← shape]
  refine ⟨positive_of_layout (Layout.shape_eq_ok.2 ⟨positive, rfl⟩), counted, ?_⟩
  intro extent member
  apply tensor.hostShape_lt
  rw [shape]
  simp only [List.mem_cons] at member ⊢
  tauto

theorem channels_lt : channels < Nat.pow 2 31 := by
  obtain ⟨image, _, _, shape⟩ := depthwise.known
  apply image.hostShape_lt
  simp [shape]

theorem inputChannels_eq :
    ∃ dims, Scope.dims ⟨builder.registry, tensors⟩ .depthwiseConv2d node.inputs 0 = .ok dims ∧
      Emission.inputChannels dims = .ok channels := by
  obtain ⟨image, known, positive, shape⟩ := depthwise.known
  have last : image.hostShape[3]? = some channels := by rw [shape]; rfl
  rw [Tensor.hostShape, List.getElem?_map, Option.map_eq_some_iff] at last
  obtain ⟨dim, here, counted⟩ := last
  refine ⟨image.dims, ?_, ?_⟩
  · simp [Scope.dims, Scope.operand, depthwise.first, Scope.tensor, known]
  · simp only [Emission.inputChannels, here]
    exact positive_eq_ok.2 ⟨positive dim (List.mem_of_getElem? here), counted.symm⟩

theorem typing_eq (valid : 0 ≤ data) :
    ∃ filterType, Typing.depthwiseConv2d ⟨builder.registry, tensors⟩ builder.graph node.inputs
        (.depthwiseConv2d options) =
      Typing.splitFilter ([batch, channels, height, width], elementType) channels
        ([filters, depth, rows, columns], filterType) options := by
  obtain ⟨source, bound, image, found, type⟩ := depthwise.stands
  obtain ⟨weights, tensor, there, constant, unflagged, shape⟩ := depthwise.second
  obtain ⟨valid', _, _, kept, filter, bound', found', shape'⟩ := constant.stands
  obtain ⟨dims, known, counted⟩ := depthwise.inputChannels_eq
  have first : Scope.Data ⟨builder.registry, tensors⟩ builder.graph node.inputs 0
      ([batch, channels, height, width], elementType) :=
    ⟨image, ⟨data, source, depthwise.first, valid, bound, found⟩, type⟩
  have flag : Scope.isFlagged ⟨builder.registry, tensors⟩ node.inputs 1 = false := by
    rw [isFlagged_at there, unflagged]
  exact ⟨filter.elementType, Typing.depthwiseConv2d_eq_splitFilter first
    ⟨weights, kept, there, valid', bound', found'⟩ (shape'.trans shape) flag depthwise.bare known
    counted depthwise.plain⟩

theorem run_eq_ok (valid : 0 ≤ data) {told : OutputType} {uses : List FilterUse} :
    (Typing.depthwiseConv2d ⟨builder.registry, tensors⟩ builder.graph node.inputs
        (.depthwiseConv2d options)).run [] = .ok (told, uses) ↔
      options.Fits ⟨height, width⟩ ⟨rows, columns⟩ channels depth filters ∧
        told = (Window.outputShape batch filters ⟨height, width⟩ ⟨rows, columns⟩ options.attributes,
          elementType) ∧
        uses = [⟨.groupConvolution options.attributes,
          some [channels / depth, filters / (channels / depth), depth, rows, columns]⟩] := by
  obtain ⟨positive, counted, small⟩ := depthwise.filter_extents
  obtain ⟨_, typing⟩ := depthwise.typing_eq valid
  rw [typing]
  exact Typing.splitFilter_run_eq_ok positive counted depthwise.channels_lt small

theorem obstructed (valid : 0 ≤ data) :
    Typing.Obstructed (Typing.depthwiseConv2d ⟨builder.registry, tensors⟩ builder.graph node.inputs
      (.depthwiseConv2d options)) := by
  obtain ⟨_, typing⟩ := depthwise.typing_eq valid
  rw [typing]
  exact Typing.obstructed_splitFilter _ _ _ _

/-- A negative operand is a missing one, also where it is bound. -/
theorem missing (negative : data < 0) :
    (Typing.depthwiseConv2d ⟨builder.registry, tensors⟩ builder.graph node.inputs
      (.depthwiseConv2d options)).run [] = .error (.missingOperand data) := by
  have looked : Typing.input ⟨builder.registry, tensors⟩ builder.graph node.inputs .depthwiseConv2d 0 =
      .error (.missingOperand data) := by
    simp [Typing.input, Scope.input, Scope.operand, depthwise.first, negative]
  rw [Typing.depthwiseConv2d, looked]
  rfl

/-- The depth multiplier is read nowhere. -/
theorem lowerNode_multiplier {id : Int32} (valid : 0 ≤ id) (multiplier : Int32) :
    lowerNode id
        { node with options := .depthwiseConv2d ({ options with depthMultiplier := multiplier }) }
        tensors builder =
      lowerNode id node tensors builder := by
  obtain ⟨output, _, known⟩ := depthwise.exists_target valid
  have known' : target id
      { node with options := .depthwiseConv2d ({ options with depthMultiplier := multiplier }) } =
        .ok (output, .depthwiseConv2d) := known
  unfold lowerNode
  rw [run_bind_of_ok (run_lift_ok known builder), run_bind_of_ok (run_lift_ok known' builder),
    depthwise.given]
  rfl

end Depthwise

/-- The depthwise convolution of data that stands as an image, by a registered filter, is lowered exactly
where the filter can be split and slides over the data.  Its filter then has one group for each share of
the input channels.  A convolution that is not lowered is stopped by an obstacle, unless its data operand
is negative. -/
theorem depthwise_splits_exactly {builder : Builder} {tensors : TensorContext} {node : ScheduledNode}
    {options : DepthwiseConv2dOptions} {data : OperandIndex} {elementType : ElementType}
    {batch height width channels depth rows columns filters : Nat} {id : Int32}
    (depthwise : builder.Depthwise tensors node options data elementType
      [batch, height, width, channels] [depth, rows, columns, filters]) (valid : 0 ≤ id) :
    (data < 0 → ∃ after, lowerNode id node tensors builder = .error (.missingOperand data) after) ∧
    (0 ≤ data →
      ((∃ after, lowerNode id node tensors builder = .ok () after) ↔
        options.Fits ⟨height, width⟩ ⟨rows, columns⟩ channels depth filters) ∧
      (∀ after, lowerNode id node tensors builder = .ok () after →
        ∃ output result, node.outputs.head? = some output ∧
          after.registry.node? output = some result ∧
          after.graph.Typed result
            (Window.outputShape batch filters ⟨height, width⟩ ⟨rows, columns⟩ options.attributes,
              elementType) ∧
          after.graph.filterUsesFrom builder.graph.size = [⟨.groupConvolution options.attributes,
            some [channels / depth, filters / (channels / depth), depth, rows, columns]⟩] ∧
          List.prod [channels / depth, filters / (channels / depth), depth, rows, columns] =
            List.prod [depth, rows, columns, filters]) ∧
      ∀ failure after, lowerNode id node tensors builder = .error failure after →
        ∃ obstacle, failure = .obstructed obstacle) ∧
    ∀ multiplier,
      lowerNode id
          { node with options := .depthwiseConv2d ({ options with depthMultiplier := multiplier }) }
          tensors builder =
        lowerNode id node tensors builder := by
  obtain ⟨output, head, known⟩ := depthwise.exists_target valid
  refine ⟨fun negative => lowerNode_of_refused known depthwise.ends (depthwise.missing negative), ?_, ?_⟩
  · intro given
    cases outcome : (Typing.depthwiseConv2d ⟨builder.registry, tensors⟩ builder.graph node.inputs
        (.depthwiseConv2d options)).run [] with
    | ok told =>
      obtain ⟨fits, type, uses⟩ := (depthwise.run_eq_ok given).1 outcome
      obtain ⟨after, result, ran, split, bound, typed⟩ := lowerNode_of_told known depthwise.ends outcome
      rw [type] at typed
      rw [uses] at split
      refine ⟨⟨fun _ => fits, fun _ => ⟨after, ran⟩⟩, ?_, ?_⟩
      · intro after' ran'
        cases ran.symm.trans ran'
        exact ⟨output, result, head, bound, typed, split,
          (prod_grouped fits.shared).trans prod_filtersFirst⟩
      · intro failure after' failed
        cases ran.symm.trans failed
    | error failure =>
      obtain ⟨after, failed⟩ := lowerNode_of_refused known depthwise.ends outcome
      refine ⟨⟨?_, ?_⟩, ?_, ?_⟩
      · rintro ⟨after', ran⟩
        cases ran.symm.trans failed
      · intro fits
        cases ((depthwise.run_eq_ok given).2 ⟨fits, rfl, rfl⟩).symm.trans outcome
      · intro after' ran
        cases ran.symm.trans failed
      · intro failure' after' failed'
        cases failed.symm.trans failed'
        exact depthwise.obstructed given [] failure outcome
  · exact depthwise.lowerNode_multiplier valid

end Builder

namespace DepthwiseExample

def image : Tensor := { tensorType := .float32, dims := [1, 5, 7, 4] }

def filter : Tensor := .constantFloat32 [2, 3, 3, 4] (List.replicate 72 1)

def options : DepthwiseConv2dOptions where
  padding := .valid
  strideWidth := 2
  strideHeight := 2

def producer (data : OperandIndex) : ScheduledNode where
  id := 0
  op := .builtin .relu
  inputs := [0]
  outputs := [data]

def node (data : OperandIndex) : ScheduledNode where
  id := 1
  op := .builtin .depthwiseConv2d
  inputs := [data, 1]
  outputs := [2]
  options := .depthwiseConv2d options

def tensors (data : OperandIndex) : TensorContext :=
  .ofList [(0, image), (1, filter), (data, image)]

def start (data : OperandIndex) : Builder :=
  RouteExample.after (Builder.lowerNode 0 (producer data) (tensors data))
    (RouteExample.after (Builder.registerInput image 0) {})

def withFilter (data : OperandIndex) : Builder :=
  RouteExample.after (Builder.registerConstant filter 1) (start data)

theorem depthwise {data : OperandIndex} (either : data = 3 ∨ data = -1) :
    (withFilter data).Depthwise (tensors data) (node data) options data .f32 [1, 5, 7, 4]
      [2, 3, 3, 4] := by
  have registered : RouteExample.succeeds (Builder.registerConstant filter 1) (start data) = true := by
    rcases either with rfl | rfl <;> decide +kernel
  have constant : (withFilter data).HoldsConstant 1 filter :=
    ⟨start data, withFilter data, RouteExample.run_eq_after registered, List.prefix_refl _, rfl⟩
  constructor
  case op => rfl
  case given => rfl
  case outputs => exact List.cons_ne_nil _ _
  case plain => rfl
  case bare => intro index here; cases here
  case first => rfl
  case stands =>
    have found : (withFilter data).registry.node? data = some 3 := by
      rcases either with rfl | rfl <;> decide +kernel
    have typed : ((withFilter data).graph.node? 3).map Node.outputType = some ([1, 4, 5, 7], .f32) := by
      rcases either with rfl | rfl <;> decide +kernel
    exact ⟨3, found, Option.map_eq_some_iff.1 typed⟩
  case known =>
    have known : (tensors data).get? data = some image := by
      rcases either with rfl | rfl <;> decide +kernel
    exact ⟨image, known, by simp [image], rfl⟩
  case second =>
    refine ⟨1, filter, rfl, constant, ?_, rfl⟩
    rcases either with rfl | rfl <;> decide +kernel

theorem fits : options.Fits ⟨5, 7⟩ ⟨3, 3⟩ 4 2 4 where
  even := by decide
  shared := by decide
  strides := by decide
  dilations := by decide
  padding := .inr rfl
  window _ := by decide

end DepthwiseExample

namespace Builder

open DepthwiseExample

theorem depthwise_splits_exactly_pairs :
    (withFilter 3).Depthwise (tensors 3) (node 3) options 3 .f32 [1, 5, 7, 4] [2, 3, 3, 4] ∧
      ∃ after result, lowerNode 1 (node 3) (tensors 3) (withFilter 3) = .ok () after ∧
        after.registry.node? 2 = some result ∧ after.graph.Typed result ([1, 4, 2, 3], .f32) ∧
        after.graph.filterUsesFrom (withFilter 3).graph.size =
          [⟨.groupConvolution options.attributes, some [2, 2, 2, 3, 3]⟩] := by
  have depthwise := DepthwiseExample.depthwise (.inl rfl)
  have valid : (0 : Int32) ≤ 1 := by decide
  obtain ⟨_, given, _⟩ := depthwise_splits_exactly depthwise valid
  obtain ⟨exactly, splits, _⟩ := given (by decide)
  obtain ⟨after, ran⟩ := exactly.2 DepthwiseExample.fits
  obtain ⟨output, result, head, bound, typed, uses, _⟩ := splits after ran
  cases head
  exact ⟨depthwise, after, result, ran, bound, typed, uses⟩

/-- The image can stand for a negative operand, and the filter fits, but the operand counts as missing. -/
theorem depthwise_negative_missing :
    (withFilter (-1)).Depthwise (tensors (-1)) (node (-1)) options (-1) .f32 [1, 5, 7, 4] [2, 3, 3, 4] ∧
      options.Fits ⟨5, 7⟩ ⟨3, 3⟩ 4 2 4 ∧
      ∃ after, lowerNode 1 (node (-1)) (tensors (-1)) (withFilter (-1)) =
        .error (.missingOperand (-1)) after := by
  have depthwise := DepthwiseExample.depthwise (.inr rfl)
  have valid : (0 : Int32) ≤ 1 := by decide
  obtain ⟨_, _, known⟩ := depthwise.exists_target valid
  exact ⟨depthwise, DepthwiseExample.fits,
    lowerNode_of_refused known depthwise.ends (depthwise.missing (by decide))⟩

end Builder

end PartitionLowering
