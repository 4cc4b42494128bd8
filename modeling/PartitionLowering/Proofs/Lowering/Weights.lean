import PartitionLowering.Proofs.Lowering.Acceptance
import PartitionLowering.Proofs.Lowering.Emission

/-!
Weights as operands.  Weights that were registered as a constant stand in the host's layout, weights
that were registered as a graph input in the engine's, with a flag (`Scope.Weight`).  A filter comes out
the same from both (`convFilter_eq`, `orderedFilter_eq`), and so does a bias (`addBias_eq`).
-/

set_option autoImplicit false

namespace PartitionLowering

section LookUps

variable {α β : Type}

theorem lift_ok_bind (value : α) (next : α → Typing β) :
    (liftM (.ok value : Except Failure α) : Typing α) >>= next = next value :=
  rfl

end LookUps

def Scope.Reads (scope : Scope) (graph : Graph) (inputs : List OperandIndex) (position : Nat)
    (node : Node) : Prop :=
  ∃ index id, inputs[position]? = some index ∧ 0 ≤ index ∧ scope.registry.node? index = some id ∧
    graph.node? id = some node

section Operands

variable {scope : Scope} {graph : Graph} {inputs : List OperandIndex} {position : Nat} {node : Node}

theorem Scope.Reads.input (reads : scope.Reads graph inputs position node) (recipe : Recipe) :
    Typing.input scope graph inputs recipe position = .ok node := by
  obtain ⟨index, id, here, valid, bound, found⟩ := reads
  have known : scope.input recipe inputs position = .ok id :=
    input_eq_ok.2 ⟨index, here, valid, bound⟩
  rw [Typing.input, known, ok_bind, Typing.nodeOf, found]

theorem Scope.reads_of_input {recipe : Recipe}
    (read : Typing.input scope graph inputs recipe position = .ok node) :
    scope.Reads graph inputs position node := by
  obtain ⟨id, looked, found⟩ := bind_eq_ok.1 read
  obtain ⟨index, here, valid, bound⟩ := input_eq_ok.1 looked
  refine ⟨index, id, here, valid, bound, ?_⟩
  cases there : graph.node? id with
  | none => simp [Typing.nodeOf, there] at found
  | some node => simpa [Typing.nodeOf, there] using found

theorem Scope.Reads.optionalInput (reads : scope.Reads graph inputs position node) :
    Typing.optionalInput scope graph inputs position = .ok (some node) := by
  obtain ⟨index, id, here, valid, bound, found⟩ := reads
  have known : scope.optionalInput inputs position = .ok (some id) := by
    simp [Scope.optionalInput, here, valid, Registry.node, bound]
  rw [Typing.optionalInput, known, ok_bind]
  simp [Typing.nodeOf, found]

theorem optionalInput_of_absent (absent : inputs[position]? = none) :
    Typing.optionalInput scope graph inputs position = .ok none := by
  rw [Typing.optionalInput, Scope.optionalInput, absent]
  rfl

def Scope.Data (scope : Scope) (graph : Graph) (inputs : List OperandIndex) (position : Nat)
    (type : OutputType) : Prop :=
  ∃ node, scope.Reads graph inputs position node ∧ node.outputType = type

def Scope.Weight (scope : Scope) (graph : Graph) (inputs : List OperandIndex) (position : Nat)
    (shape : Shape) : Prop :=
  ∃ node, scope.Reads graph inputs position node ∧ node.elementType = .f32 ∧
    node.shape = if scope.isFlagged inputs position then Layout.engineShape shape else shape

def Scope.Bias (scope : Scope) (graph : Graph) (inputs : List OperandIndex) (position : Nat) :
    Option Int32 → Prop
  | none => inputs[position]? = none
  | some channels => 0 < channels ∧ scope.Weight graph inputs position [channels.toInt.toNat] ∧
      ∀ recipe, scope.dims recipe inputs position = .ok [channels]

end Operands

/-! ## Operations that have a type -/

theorem op_eq_pure {op : Op} {nodes : List Node} {type : OutputType}
    (inferred : op.infer nodes = .ok type) (plain : op.isConvolution = false) :
    Typing.op op nodes = pure type := by
  have none : op.filterUses nodes = [] := by
    rw [Op.filterUses, plain]
    rfl
  funext uses
  rw [Typing.op, inferred, none]
  change Except.ok (type, uses ++ []) = Except.ok (type, uses)
  rw [List.append_nil]

theorem op_congr {op : Op} {nodes others : List Node} (alike : List.Forall₂ Node.Alike nodes others)
    (integers : ∀ position ∈ op.integerPositions,
      nodes[position]?.bind Node.integers? = others[position]?.bind Node.integers?) :
    Typing.op op nodes = Typing.op op others := by
  have filters : op.filterUses nodes = op.filterUses others := by
    have second : nodes[1]?.map Node.shape = others[1]?.map Node.shape := by
      rcases alike with _ | ⟨_, _ | ⟨second, _⟩⟩
      · rfl
      · rfl
      · simpa using second.shape
    rw [Op.filterUses, Op.filterUses, second]
  rw [Typing.op, Typing.op, Op.infer_congr op alike integers, filters]

theorem pos_of_integerPositions {op : Op} {position : Nat} (asked : position ∈ op.integerPositions) :
    0 < position := by
  cases op <;> simp [Op.integerPositions] at asked <;> omega

theorem op_data (op : Op) (node : Node) (rest : List Node) :
    Typing.op op (node :: rest) = Typing.op op (.ofType node.outputType :: rest) := by
  have alike : List.Forall₂ Node.Alike (node :: rest) (.ofType node.outputType :: rest) :=
    .cons rfl (List.forall₂_same.2 fun _ _ => rfl)
  apply op_congr alike
  intro position asked
  cases position with
  | zero => exact absurd (pos_of_integerPositions asked) (Nat.lt_irrefl 0)
  | succ position => rfl

/-! ## Filters -/

section Filters

variable {scope : Scope} {graph : Graph} {inputs : List OperandIndex}

theorem transpose_eq {node : Node} {order : List Int64} {shape : Shape}
    (permuted : Shape.permute node.shape (order.map Int64.toInt) = .ok shape) :
    Typing.transpose node order = pure (shape, node.elementType) :=
  op_eq_pure (Layout.infer_transpose permuted) rfl

theorem convFilter_eq {node : Node} {outputs height width channels : Nat}
    (shape : node.shape =
      if scope.isFlagged inputs 1 then Layout.engineShape [outputs, height, width, channels]
      else [outputs, height, width, channels]) :
    Typing.convFilter scope inputs node =
      pure ([outputs, channels, height, width], node.elementType) := by
  rw [Typing.convFilter]
  by_cases flagged : scope.isFlagged inputs 1
  · rw [if_pos flagged] at shape ⊢
    rw [Node.outputType, shape]
    rfl
  · rw [if_neg flagged] at shape ⊢
    have order : Layout.toEngineOrder.map Int64.toInt = [0, 3, 1, 2] := by decide
    apply transpose_eq
    rw [shape, order, Shape.permute_toEngine]

theorem orderedFilter_eq {node : Node} {position : Nat} {outer height width inner : Nat}
    (shape : node.shape =
      if scope.isFlagged inputs position then Layout.engineShape [outer, height, width, inner]
      else [outer, height, width, inner]) :
    Typing.orderedFilter scope inputs position node =
      pure ([inner, outer, height, width], node.elementType) := by
  rw [Typing.orderedFilter]
  by_cases flagged : scope.isFlagged inputs position
  · rw [if_pos flagged] at shape ⊢
    have held : node.shape = [outer, inner, height, width] := shape
    have order : Emission.swapOuterAxes.map Int64.toInt = [1, 0, 2, 3] := by decide
    apply transpose_eq
    rw [held, order, Shape.permute_swapOuterAxes]
  · rw [if_neg flagged] at shape ⊢
    have order : Emission.lastAxisFirst.map Int64.toInt = [3, 0, 1, 2] := by decide
    apply transpose_eq
    rw [shape, order, Shape.permute_lastAxisFirst]

end Filters

/-! ## Biases -/

theorem biasPattern_eq (rank : Nat) (channels : Int32) :
    ∃ ones, Fusion.biasPattern rank channels = 1 :: channels :: List.replicate ones 1 := by
  obtain ⟨ones, split⟩ : ∃ ones, max rank 2 = ones + 2 := ⟨max rank 2 - 2, by omega⟩
  exact ⟨ones, by rw [Fusion.biasPattern, split]; rfl⟩

theorem elementCount?_ones_after {extent : Nat} (small : extent < Size.bound) (ones : Nat) :
    Shape.elementCount? (extent :: List.replicate ones 1) = some extent := by
  have first : Size.mul? 1 extent = some extent := by simp [Size.mul?, small]
  have step : Size.mul? extent 1 = some extent := by simp [Size.mul?, small]
  have rest : (List.replicate ones 1).foldlM Size.mul? extent = some extent := by
    induction ones with
    | zero => rfl
    | succ ones ih => simp [List.replicate_succ, step, ih]
  simp [Shape.elementCount?, Size.product?, first, rest]

theorem toNat_lt_bound (dim : Int32) : dim.toInt.toNat < Size.bound := by
  have below := dim.toInt_lt
  simp only [Size.bound]
  omega

theorem plain_biasPattern (rank : Nat) {channels : Int32} (positive : 0 < channels) :
    Shape.Plain ((Fusion.biasPattern rank channels).map Int32.toInt) true := by
  obtain ⟨ones, split⟩ := biasPattern_eq rank channels
  rw [split]
  intro entry member
  obtain ⟨extent, inside, rfl⟩ := List.mem_map.1 member
  have above : 0 < extent.toInt := by
    rcases List.mem_cons.1 inside with rfl | later
    · decide
    · rcases List.mem_cons.1 later with rfl | last
      · exact Layout.toInt_pos positive
      · rw [List.eq_of_mem_replicate last]
        decide
  omega

def biasShape (rank : Nat) (channels : Int32) : Shape :=
  ((Fusion.biasPattern rank channels).map Int32.toInt).map Int.toNat

theorem elementCount?_biasShape (rank : Nat) (channels : Int32) :
    Shape.elementCount? (biasShape rank channels) = some channels.toInt.toNat := by
  obtain ⟨ones, split⟩ := biasPattern_eq rank channels
  rw [biasShape, split]
  simp only [List.map_cons, List.map_replicate]
  exact (Shape.elementCount?_one_cons _).trans (elementCount?_ones_after (toNat_lt_bound channels) ones)

/-- A bias of as many elements as the producer has channels takes on the shape of its pattern, whatever
its own shape is. -/
theorem addBias_eq {bias : Node} {channels : Int32} (positive : 0 < channels)
    (counted : Shape.elementCount? bias.shape = some channels.toInt.toNat) (producer : OutputType)
    (rest : List Int32) :
    Typing.addBias producer bias (channels :: rest) =
      Typing.op .add [.ofType producer,
        .ofType (biasShape producer.1.length channels, bias.elementType)] := by
  have reshaped := Shape.reshape_of_plain (plain_biasPattern producer.1.length positive) counted
    (elementCount?_biasShape producer.1.length channels)
  have integers : (Node.ofInt32s (Fusion.biasPattern producer.1.length channels)).integers? =
      some ((Fusion.biasPattern producer.1.length channels).map Int32.toInt) :=
    Node.integers?_int32 _ _ rfl rfl
  have inferred : (Op.reshape true).infer
      [bias, .ofInt32s (Fusion.biasPattern producer.1.length channels)] =
      .ok (biasShape producer.1.length channels, bias.elementType) := by
    simp only [Op.infer, Inference.reshape, Inference.twoInputs, Inference.integersAt, integers, ok_bind,
      reshaped, pure_eq_ok, biasShape]
  rw [Typing.addBias, op_eq_pure inferred rfl, pure_bind]

def Typing.biased (producer : OutputType) : Option Int32 → Typing OutputType
  | none => pure producer
  | some channels =>
    op .add [.ofType producer, .ofType (biasShape producer.1.length channels, .f32)]

section Biases

variable {scope : Scope} {graph : Graph} {inputs : List OperandIndex} {position : Nat}

theorem addBias_of_weight {channels : Int32} (positive : 0 < channels) {node : Node}
    (element : node.elementType = .f32)
    (shape : node.shape =
      if scope.isFlagged inputs position then Layout.engineShape [channels.toInt.toNat]
      else [channels.toInt.toNat]) (producer : OutputType) :
    Typing.addBias producer node [channels] = Typing.biased producer (some channels) := by
  have small := toNat_lt_bound channels
  have counted : Shape.elementCount? node.shape = some channels.toInt.toNat := by
    rw [shape]
    by_cases flagged : scope.isFlagged inputs position
    · rw [if_pos flagged]
      exact (Shape.elementCount?_one_cons _).trans (elementCount?_ones_after small 2)
    · rw [if_neg flagged]
      exact elementCount?_ones_after small 0
  rw [addBias_eq positive counted, element, Typing.biased]

theorem addOptionalBias_eq {bias : Option Int32} (held : scope.Bias graph inputs position bias)
    (recipe : Recipe) (producer : OutputType) :
    Typing.addOptionalBias scope graph inputs recipe position producer =
      Typing.biased producer bias := by
  rw [Typing.addOptionalBias]
  cases bias with
  | none =>
    rw [optionalInput_of_absent held]
    rfl
  | some channels =>
    obtain ⟨positive, ⟨node, reads, element, shape⟩, dims⟩ := held
    rw [reads.optionalInput, lift_ok_bind]
    dsimp only
    rw [dims recipe, lift_ok_bind]
    exact addBias_of_weight positive element shape producer

end Biases

/-! ## Convolutions on known operands -/

namespace Typing

def convolved (data : OutputType) (filter : Shape) (bias : Option Int32) (options : Conv2dOptions) :
    Typing OutputType := do
  let strides ← Fusion.strides .conv2d options.strideHeight options.strideWidth
  let dilations ← Fusion.dilations .conv2d options.dilationHeightFactor options.dilationWidthFactor
  let padMode ← Fusion.padMode options.padding
  let result ← op (.convolution ⟨strides, dilations, padMode⟩) [.ofType data, .ofType (filter, .f32)]
  let result ← biased result bias
  activate result options.activation

def convolvedDepthwise (data : OutputType) (dims : Except Failure (List Int32)) (filter : Shape)
    (bias : Option Int32) (options : DepthwiseConv2dOptions) : Typing OutputType := do
  let channels ← Emission.inputChannels (← dims)
  let grouped ← Emission.groupedShape channels filter
  let filter ← op (.reshape false) [.ofType (filter, .f32), .ofInt64s (grouped.map Int64.ofNat)]
  let strides ← Fusion.strides .depthwiseConv2d options.strideHeight options.strideWidth
  let dilations ←
    Fusion.dilations .depthwiseConv2d options.dilationHeightFactor options.dilationWidthFactor
  let padMode ← Fusion.padMode options.padding
  let result ← op (.groupConvolution ⟨strides, dilations, padMode⟩) [.ofType data, .ofType filter]
  let result ← biased result bias
  activate result options.activation

def spread (recipe : Recipe) (data : OutputType) (filter : Shape) (options : TransposeConvOptions)
    (height width : Int32) : Typing OutputType := do
  let strides ← Fusion.strides recipe options.strideHeight options.strideWidth
  op (.convolutionBackpropData ⟨strides, ⟨1, 1⟩, Emission.transposedPadMode options.padding⟩)
    [.ofType data, .ofType (filter, .f32), .ofInt32s [height, width]]

def spreadTo (known : Except Failure (List Int32)) (data : OutputType) (filter : Shape)
    (bias : Option Int32) (options : TransposeConvOptions) : Typing OutputType := do
  let dims ← known
  match dims with
  | _ :: height :: width :: _ => do
    let result ← spread .transposeConv data filter options height width
    let result ← biased result bias
    activate result options.activation
  | _ => throw (.obstructed (.outputShapeNotNhwc dims))

def spreadTwice (known : Except Failure (List Int32)) (data : OutputType) (filter : Shape)
    (channels : Int32) (options : TransposeConvOptions) : Typing OutputType := do
  let dims ← known
  match dims with
  | _ :: height :: width :: _ => do
    let result ← spread .transposeConvBias data filter options (height * 2) (width * 2)
    biased result (some channels)
  | _ => throw (.obstructed (.inputNotNhwc .transposeConvBias dims))

end Typing

section Convolutions

variable {scope : Scope} {graph : Graph} {inputs : List OperandIndex} {data : OutputType}
  {outer height width inner : Nat} {bias : Option Int32}

theorem conv2d_eq (image : scope.Data graph inputs 0 data)
    (filter : scope.Weight graph inputs 1 [outer, height, width, inner])
    (held : scope.Bias graph inputs 2 bias) (options : Conv2dOptions) :
    Typing.conv2d scope graph inputs (.conv2d options) =
      Typing.convolved data [outer, inner, height, width] bias options := by
  obtain ⟨node, reads, rfl⟩ := image
  obtain ⟨weights, reads', element, shape⟩ := filter
  rw [Typing.conv2d, reads.input, reads'.input, lift_ok_bind, lift_ok_bind, convFilter_eq shape,
    pure_bind, element, Typing.convolved]
  simp only [addOptionalBias_eq held, op_data _ node]

theorem depthwiseConv2d_eq (image : scope.Data graph inputs 0 data)
    (filter : scope.Weight graph inputs 1 [outer, height, width, inner])
    (held : scope.Bias graph inputs 2 bias) (options : DepthwiseConv2dOptions) :
    Typing.depthwiseConv2d scope graph inputs (.depthwiseConv2d options) =
      Typing.convolvedDepthwise data (scope.dims .depthwiseConv2d inputs 0)
        [inner, outer, height, width] bias options := by
  obtain ⟨node, reads, rfl⟩ := image
  obtain ⟨weights, reads', element, shape⟩ := filter
  rw [Typing.depthwiseConv2d, reads.input, reads'.input, lift_ok_bind, lift_ok_bind,
    orderedFilter_eq shape, pure_bind, element, Typing.convolvedDepthwise]
  simp only [addOptionalBias_eq held, op_data _ node]

theorem backpropData_eq {inputPosition weightsPosition : Nat}
    (image : scope.Data graph inputs inputPosition data)
    (filter : scope.Weight graph inputs weightsPosition [outer, height, width, inner])
    (recipe : Recipe) (options : TransposeConvOptions) (rows columns : Int32) :
    Typing.backpropData scope graph inputs recipe inputPosition weightsPosition options rows columns =
      Typing.spread recipe data [inner, outer, height, width] options rows columns := by
  obtain ⟨node, reads, rfl⟩ := image
  obtain ⟨weights, reads', element, shape⟩ := filter
  rw [Typing.backpropData, reads.input, reads'.input, lift_ok_bind, lift_ok_bind,
    orderedFilter_eq shape, pure_bind, element, Typing.spread]
  simp only [op_data _ node]

theorem transposeConv_eq (image : scope.Data graph inputs 2 data)
    (filter : scope.Weight graph inputs 1 [outer, height, width, inner])
    (held : scope.Bias graph inputs 3 bias) (options : TransposeConvOptions) :
    Typing.transposeConv scope graph inputs (.transposeConv options) =
      Typing.spreadTo (Emission.outputDims scope inputs) data [inner, outer, height, width] bias
        options := by
  rw [Typing.transposeConv, Typing.spreadTo]
  apply bind_congr
  intro dims
  rcases dims with _ | ⟨_, _ | ⟨rows, _ | ⟨columns, _⟩⟩⟩
  · rfl
  · rfl
  · rfl
  · simp only [backpropData_eq image filter, addOptionalBias_eq held]

theorem transposeConvBias_eq (image : scope.Data graph inputs 0 data)
    (filter : scope.Weight graph inputs 1 [outer, height, width, inner]) {channels : Int32}
    (held : scope.Bias graph inputs 2 (some channels)) (options : TransposeConvOptions) :
    Typing.transposeConvBias scope graph inputs (.transposeConv options) =
      Typing.spreadTwice (scope.dims .transposeConvBias inputs 0) data
        [inner, outer, height, width] channels options := by
  obtain ⟨positive, ⟨node, reads, element, shape⟩, dims⟩ := held
  rw [Typing.transposeConvBias, Typing.spreadTwice]
  apply bind_congr
  intro extents
  rcases extents with _ | ⟨_, _ | ⟨rows, _ | ⟨columns, _⟩⟩⟩
  · rfl
  · rfl
  · rfl
  · simp only [backpropData_eq image filter, reads.input, dims, lift_ok_bind,
      addBias_of_weight positive element shape]

end Convolutions

/-! ## What a convolution comes to -/

namespace Typing

/-- The type of a producer with its bias, where there is one. -/
def BiasedTo (producer result : OutputType) : Option Int32 → Prop
  | none => result = producer
  | some channels =>
    Op.add.infer [.ofType producer, .ofType (biasShape producer.1.length channels, .f32)] = .ok result

section Inversions

variable {data result : OutputType} {filter : Shape} {bias : Option Int32}
  {uses all : List FilterUse}

theorem of_biased {producer : OutputType}
    (success : (biased producer bias).run uses = .ok (result, all)) :
    BiasedTo producer result bias ∧ all = uses := by
  cases bias with
  | none => exact pure_run_eq_ok.1 success
  | some channels => exact (plain_op_run_eq_ok rfl).1 success

theorem of_convolved {options : Conv2dOptions}
    (success : (convolved data filter bias options).run uses = .ok (result, all)) :
    ∃ strides dilations padMode produced,
      Fusion.strides .conv2d options.strideHeight options.strideWidth = .ok strides ∧
      Fusion.dilations .conv2d options.dilationHeightFactor options.dilationWidthFactor =
        .ok dilations ∧
      Fusion.padMode options.padding = .ok padMode ∧
      (Op.convolution ⟨strides, dilations, padMode⟩).infer [.ofType data, .ofType (filter, .f32)] =
        .ok produced ∧
      BiasedTo produced result bias ∧
      all = uses ++ [⟨.convolution ⟨strides, dilations, padMode⟩, some filter⟩] := by
  obtain ⟨strides, strided, rest⟩ := lift_bind_run_eq_ok.1 success
  obtain ⟨dilations, dilated, rest⟩ := lift_bind_run_eq_ok.1 rest
  obtain ⟨padMode, padded, rest⟩ := lift_bind_run_eq_ok.1 rest
  obtain ⟨produced, inferred, rest⟩ := op_bind_run_eq_ok.1 rest
  obtain ⟨told, _, stepped, last⟩ := bind_run_eq_ok.1 rest
  obtain ⟨added, rfl⟩ := of_biased stepped
  obtain ⟨rfl, rfl⟩ := of_activate last
  exact ⟨strides, dilations, padMode, produced, strided, dilated, padded, inferred, added, rfl⟩

theorem of_convolvedDepthwise {known : Except Failure (List Int32)} {options : DepthwiseConv2dOptions}
    (success : (convolvedDepthwise data known filter bias options).run uses = .ok (result, all)) :
    ∃ dims channels grouped split strides dilations padMode produced, known = .ok dims ∧
      Emission.inputChannels dims = .ok channels ∧
      Emission.groupedShape channels filter = .ok grouped ∧
      (Op.reshape false).infer [.ofType (filter, .f32), .ofInt64s (grouped.map Int64.ofNat)] =
        .ok split ∧
      Fusion.strides .depthwiseConv2d options.strideHeight options.strideWidth = .ok strides ∧
      Fusion.dilations .depthwiseConv2d options.dilationHeightFactor options.dilationWidthFactor =
        .ok dilations ∧
      Fusion.padMode options.padding = .ok padMode ∧
      (Op.groupConvolution ⟨strides, dilations, padMode⟩).infer [.ofType data, .ofType split] =
        .ok produced ∧
      BiasedTo produced result bias ∧
      all = uses ++ [⟨.groupConvolution ⟨strides, dilations, padMode⟩, some split.1⟩] := by
  obtain ⟨dims, here, rest⟩ := lift_bind_run_eq_ok.1 success
  obtain ⟨channels, counted, rest⟩ := lift_bind_run_eq_ok.1 rest
  obtain ⟨grouped, grouping, rest⟩ := lift_bind_run_eq_ok.1 rest
  obtain ⟨split, reshaped, rest⟩ := op_bind_run_eq_ok.1 rest
  obtain ⟨strides, strided, rest⟩ := lift_bind_run_eq_ok.1 rest
  obtain ⟨dilations, dilated, rest⟩ := lift_bind_run_eq_ok.1 rest
  obtain ⟨padMode, padded, rest⟩ := lift_bind_run_eq_ok.1 rest
  obtain ⟨produced, inferred, rest⟩ := op_bind_run_eq_ok.1 rest
  obtain ⟨told, _, stepped, last⟩ := bind_run_eq_ok.1 rest
  obtain ⟨added, rfl⟩ := of_biased stepped
  obtain ⟨rfl, rfl⟩ := of_activate last
  refine ⟨dims, channels, grouped, split, strides, dilations, padMode, produced, here, counted,
    grouping, reshaped, strided, dilated, padded, inferred, added, ?_⟩
  rw [filterUses_of_plain rfl, List.append_nil]
  rfl

theorem of_spread {recipe : Recipe} {options : TransposeConvOptions} {height width : Int32}
    (success : (spread recipe data filter options height width).run uses = .ok (result, all)) :
    ∃ strides, Fusion.strides recipe options.strideHeight options.strideWidth = .ok strides ∧
      (Op.convolutionBackpropData
        ⟨strides, ⟨1, 1⟩, Emission.transposedPadMode options.padding⟩).infer
          [.ofType data, .ofType (filter, .f32), .ofInt32s [height, width]] = .ok result ∧
      all = uses ++ [⟨.convolutionBackpropData
        ⟨strides, ⟨1, 1⟩, Emission.transposedPadMode options.padding⟩, some filter⟩] := by
  obtain ⟨strides, strided, rest⟩ := lift_bind_run_eq_ok.1 success
  obtain ⟨inferred, rfl⟩ := op_run_eq_ok.1 rest
  exact ⟨strides, strided, inferred, rfl⟩

theorem of_spreadTo {known : Except Failure (List Int32)} {options : TransposeConvOptions}
    (success : (spreadTo known data filter bias options).run uses = .ok (result, all)) :
    ∃ batch height width rest produced more, known = .ok (batch :: height :: width :: rest) ∧
      (spread .transposeConv data filter options height width).run uses = .ok (produced, more) ∧
      BiasedTo produced result bias ∧ all = more := by
  obtain ⟨dims, here, rest⟩ := lift_bind_run_eq_ok.1 success
  rcases dims with _ | ⟨batch, _ | ⟨height, _ | ⟨width, others⟩⟩⟩
  · cases rest
  · cases rest
  · cases rest
  · obtain ⟨produced, _, spread, rest⟩ := bind_run_eq_ok.1 rest
    obtain ⟨told, _, stepped, last⟩ := bind_run_eq_ok.1 rest
    obtain ⟨added, rfl⟩ := of_biased stepped
    obtain ⟨rfl, rfl⟩ := of_activate last
    exact ⟨batch, height, width, others, produced, _, here, spread, added, rfl⟩

theorem of_spreadTwice {known : Except Failure (List Int32)} {channels : Int32}
    {options : TransposeConvOptions}
    (success : (spreadTwice known data filter channels options).run uses = .ok (result, all)) :
    ∃ batch height width rest produced more, known = .ok (batch :: height :: width :: rest) ∧
      (spread .transposeConvBias data filter options (height * 2) (width * 2)).run uses =
        .ok (produced, more) ∧
      BiasedTo produced result (some channels) ∧ all = more := by
  obtain ⟨dims, here, rest⟩ := lift_bind_run_eq_ok.1 success
  rcases dims with _ | ⟨batch, _ | ⟨height, _ | ⟨width, others⟩⟩⟩
  · cases rest
  · cases rest
  · cases rest
  · obtain ⟨produced, _, spread, rest⟩ := bind_run_eq_ok.1 rest
    obtain ⟨added, rfl⟩ := of_biased rest
    exact ⟨batch, height, width, others, produced, _, here, spread, added, rfl⟩

end Inversions

end Typing

end PartitionLowering
