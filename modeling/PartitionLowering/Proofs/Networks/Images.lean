import PartitionLowering.Proofs.Lowering.ImageConvolutions
import PartitionLowering.Proofs.Lowering.WeightRoutes
import PartitionLowering.Proofs.Networks.Elementwise

/-!
Networks on images.  Main statement: `image_networks_keep_shapes`, by which a network that lowers gives
each declared output the shape that the host infers.  A node finds images and weights where it looks for
them (`Finds`); each operator then comes to the image that the host's rule tells (`Finds.imaged`).
-/

set_option autoImplicit false

namespace PartitionLowering

/-! ## Networks -/

namespace ScheduledNode

/-- The positions at which a node takes weights: filters, biases, sizes and output dims. -/
def weightPositions (node : ScheduledNode) : List Nat :=
  match node.op with
  | .builtin .conv2d | .builtin .depthwiseConv2d => [1, 2]
  | .builtin .transposeConv => [0, 1, 3]
  | .builtin .resizeBilinear => [1]
  | _ => []

/-- Where the bias of a convolution stands, and which dim of its filter counts the output channels. -/
def bias? (node : ScheduledNode) : Option (Nat × Nat) :=
  match node.op with
  | .builtin .conv2d => some (2, 0)
  | .builtin .depthwiseConv2d => some (2, 3)
  | .builtin .transposeConv => some (3, 0)
  | _ => none

end ScheduledNode

def imageOperators : List BuiltinOperator :=
  [.relu, .relu6, .tanh, .logistic, .hardSwish, .softmax, .averagePool2d, .maxPool2d, .conv2d,
    .depthwiseConv2d, .transposeConv, .concatenation, .resizeBilinear, .add, .mul]

/-- A network on images.  Graph inputs are images, weights are written by no node, a bias has one dim for
the output channels, and all else comes from the host or from a node before. -/
structure ImageNetwork (partition : Partition) (tensors : TensorContext) : Prop where
  operators : ∀ node ∈ partition.nodes, ∃ operator ∈ imageOperators, node.op = .builtin operator
  joined : ∀ node ∈ partition.nodes, ∀ options, node.op = .builtin .concatenation →
    node.options = .concatenation options → options.axis = 3
  images : ∀ node ∈ partition.nodes, ∀ index ∈ node.inputs, 0 ≤ index → index ∈ partition.inputs →
    ∃ tensor, tensors.get? index = some tensor ∧ tensor.rank = 4 ∧ tensor.allocation ≠ .mmapRo
  weights : ∀ node ∈ partition.nodes, ∀ position ∈ node.weightPositions, ∀ index,
    node.inputs[position]? = some index → ¬Host.Written partition.nodes index ∧
      ∃ tensor, tensors.get? index = some tensor ∧ tensor.allocation = .mmapRo
  biases : ∀ node ∈ partition.nodes, ∀ position axis, node.bias? = some (position, axis) →
    ∀ bias filter, Host.tensorAt? tensors node position = some bias →
      Host.tensorAt? tensors node 1 = some filter →
      ∃ channels, filter.dims[axis]? = some channels ∧ bias.dims = [channels]
  operands : ∀ before node after, partition.nodes = before ++ node :: after →
    ∀ (position : Nat) (index : OperandIndex), node.inputs[position]? = some index → 0 ≤ index →
      position ∉ node.weightPositions → index ∈ partition.inputs ∨ Host.Written before index
  outputs : ∀ index ∈ partition.outputs, index ∈ partition.inputs ∨ Host.Written partition.nodes index

def FourAxes (type : OutputType) : Prop :=
  type.1.length = 4

/-! ## Operands -/

/-- What a node of a network on images finds: images, and at the positions of weights their payload. -/
structure Finds (tensors : TensorContext) (shapes : Host.Shapes) (builder : Builder)
    (node : ScheduledNode) : Prop where
  image : ∀ (position : Nat) (index : OperandIndex), node.inputs[position]? = some index → 0 ≤ index →
    position ∉ node.weightPositions →
    ∃ batch height width channels elementType,
      shapes index = some [batch, height, width, channels] ∧
      Scope.Data ⟨builder.registry, tensors⟩ builder.graph node.inputs position
        ([batch, channels, height, width], elementType)
  payload : ∀ (position : Nat) (index : OperandIndex), node.inputs[position]? = some index → 0 ≤ index →
    position ∈ node.weightPositions → 0 < position → ∀ tensor, tensors.get? index = some tensor →
    ∃ id data elementType, tensor.data = some data ∧
      Layout.elementType tensor.tensorType = .ok elementType ∧
      Scope.isFlagged ⟨builder.registry, tensors⟩ node.inputs position = false ∧
      Scope.Reads ⟨builder.registry, tensors⟩ builder.graph node.inputs position
        ⟨id, .constant data, [], tensor.hostShape, elementType⟩
  kept : ∀ position ∈ node.weightPositions, ∀ index, node.inputs[position]? = some index →
    ∃ tensor, tensors.get? index = some tensor
  biases : ∀ position axis, node.bias? = some (position, axis) → ∀ bias filter,
    Host.tensorAt? tensors node position = some bias →
    Host.tensorAt? tensors node 1 = some filter →
    ∃ channels, filter.dims[axis]? = some channels ∧ bias.dims = [channels]
  joined : ∀ options, node.op = .builtin .concatenation → node.options = .concatenation options →
    options.axis = 3

section Operands

variable {partition : Partition} {tensors : TensorContext} {shapes : Host.Shapes} {builder : Builder}
  {node : ScheduledNode}

theorem needed_of_data {position : Nat} (data : position ∉ node.weightPositions)
    (transposed : node.op = .builtin .transposeConv) : 0 < position := by
  rw [ScheduledNode.weightPositions, transposed] at data
  by_contra first
  simp at data
  omega

section Reached

variable {before after : List ScheduledNode} {position : Nat} {index : OperandIndex}
  (network : ImageNetwork partition tensors) (split : partition.nodes = before ++ node :: after)
  (reached : Host.run? tensors (Host.inputShapes partition tensors) before = some shapes)

include network split reached

/-- The host has a shape for an operand that is read as data. -/
theorem ImageNetwork.known (here : node.inputs[position]? = some index) (valid : 0 ≤ index)
    (origin : index ∈ partition.inputs ∨ Host.Written before index) : shapes index ≠ none := by
  have member : node ∈ partition.nodes := by simp [split]
  rcases origin with given | written
  · obtain ⟨tensor, known, _⟩ :=
      network.images node member index (List.mem_of_getElem? here) valid given
    exact Host.ne_none_of_input reached given known
  · exact Host.ne_none_of_written reached written

/-- The host has no shape for an operand that is read as weights. -/
theorem ImageNetwork.unknown (here : node.inputs[position]? = some index) (valid : 0 ≤ index)
    (weights : position ∈ node.weightPositions) : shapes index = none := by
  have member : node ∈ partition.nodes := by simp [split]
  obtain ⟨unwritten, tensor, kept, constant⟩ := network.weights node member position weights index here
  by_contra known
  rcases Host.origin_of_run reached known with given | ⟨other, inside, first⟩
  · obtain ⟨tensor', kept', _, mutable⟩ :=
      network.images node member index (List.mem_of_getElem? here) valid given
    rw [kept] at kept'
    cases kept'
    exact mutable constant
  · exact unwritten ⟨other, by simp [split, inside], first⟩

theorem ImageNetwork.finds (mirrors : Mirrors partition tensors FourAxes shapes builder)
    (bound : ∀ index, Host.Written before index → builder.Bound index)
    (provided : ∀ index ∈ node.neededInputs, Provided partition tensors index → builder.Bound index) :
    Finds tensors shapes builder node := by
  have member : node ∈ partition.nodes := by simp [split]
  constructor
  · intro position index here valid data
    have origin := network.operands before node after split position index here valid data
    have held : builder.Bound index := by
      rcases origin with given | written
      · exact provided index (mem_neededInputs here valid (needed_of_data data)) (.inl given)
      · exact bound index written
    obtain ⟨shape, elementType, same, rank, data⟩ :=
      mirrors.data here valid held (network.known split reached here valid origin)
    obtain ⟨batch, height, width, channels, rfl⟩ := Shape.exists_image rank
    exact ⟨batch, height, width, channels, elementType, same, data⟩
  · intro position index here valid weights later tensor kept
    obtain ⟨_, tensor', kept', constant⟩ := network.weights node member position weights index here
    rw [kept] at kept'
    cases kept'
    have held := provided index (mem_neededInputs here valid fun _ => later)
      (.inr ⟨tensor, kept, constant⟩)
    exact mirrors.weightNode here valid held (network.unknown split reached here valid weights) kept
  · intro position weights index here
    obtain ⟨_, tensor, kept, _⟩ := network.weights node member position weights index here
    exact ⟨tensor, kept⟩
  · exact network.biases node member
  · exact network.joined node member

end Reached

end Operands

/-! ## Operators -/

section Operators

variable {tensors : TensorContext} {shapes : Host.Shapes} {builder : Builder} {node : ScheduledNode}
  {recipe : Recipe} {told : OutputType} {uses : List FilterUse}

theorem at?_eq {position : Nat} {index : OperandIndex} (here : node.inputs[position]? = some index)
    {shape : Shape} (known : shapes index = some shape) :
    Host.Shapes.at? shapes node position = some shape := by
  rw [Host.Shapes.at?, here]
  exact known

theorem Finds.unary (finds : Finds tensors shapes builder node) {op : Op} (unary : node.Unary recipe op)
    (plain : 0 ∉ node.weightPositions)
    (accepted : Support.check node.op node.inputs node.options tensors = .ok ())
    (typed : builder.typeOf tensors node recipe = .ok (told, uses)) :
    Imaged (Host.outputShape? tensors shapes node) told := by
  obtain ⟨index, rest, tensor, inputs, admitted, _⟩ := unary.accepted accepted
  have here : node.inputs[0]? = some index := by simp [inputs]
  obtain ⟨batch, height, width, channels, elementType, known, data⟩ :=
    finds.image 0 index here admitted.valid plain
  rw [Builder.typeOf, Recipe.typing_unary unary.unary, unary_eq unary.unary rfl data] at typed
  cases typed
  refine ⟨batch, height, width, channels, elementType, ?_, rfl⟩
  rw [unary.hosted, at?_eq here known]

theorem Finds.binary (finds : Finds tensors shapes builder node) {op : Op} {activation : Activation}
    (binary : node.Binary recipe op activation) (plain : node.weightPositions = [])
    (accepted : Support.check node.op node.inputs node.options tensors = .ok ())
    (typed : builder.typeOf tensors node recipe = .ok (told, uses)) :
    Imaged (Host.outputShape? tensors shapes node) told := by
  obtain ⟨lhs, rhs, inputs, each⟩ := binary.accepted accepted
  have first : node.inputs[0]? = some lhs := by simp [inputs]
  have second : node.inputs[1]? = some rhs := by simp [inputs]
  obtain ⟨_, admitted, _⟩ := each lhs (by simp [inputs])
  obtain ⟨_, admitted', _⟩ := each rhs (by simp [inputs])
  obtain ⟨batch, height, width, channels, elementType, known, data⟩ :=
    finds.image 0 lhs first admitted.valid (by simp [plain])
  obtain ⟨batch', height', width', channels', elementType', known', data'⟩ :=
    finds.image 1 rhs second admitted'.valid (by simp [plain])
  rw [Builder.typeOf, binary.typing, binary_eq binary.binary data data'] at typed
  obtain ⟨produced, inferred, rest⟩ := Typing.op_bind_run_eq_ok.1 typed
  obtain ⟨rfl, _⟩ := Typing.of_activate rest
  have ranks : ([batch, height, width, channels] : Shape).length ≤ 4 ∧
      ([batch', height', width', channels'] : Shape).length ≤ 4 := ⟨by simp, by simp⟩
  obtain ⟨_, shape, joined, rfl⟩ := (infer_arithmetic binary.binary ranks.1 ranks.2).1 inferred
  obtain ⟨batch'', height'', width'', channels'', rfl⟩ :=
    Shape.exists_image (Layout.length_of_host_broadcast? joined)
  refine ⟨batch'', height'', width'', channels'', elementType, ?_, rfl⟩
  rw [binary.hosted, at?_eq first known, at?_eq second known', Option.bind_some, Option.bind_some, joined]

theorem Finds.pool (finds : Finds tensors shapes builder node)
    (op : node.op = .builtin .averagePool2d ∨ node.op = .builtin .maxPool2d)
    (known : Recipe.ofOpCode node.op = .ok recipe)
    (accepted : Support.check node.op node.inputs node.options tensors = .ok ())
    (typed : builder.typeOf tensors node recipe = .ok (told, uses)) :
    Imaged (Host.outputShape? tensors shapes node) told := by
  have ruled : Support.rule? node.op node.inputs.length = some Support.unaryRule := by
    rcases op with op | op <;> rw [op] <;> rfl
  have plain : node.weightPositions = [] := by
    rcases op with op | op <;> rw [ScheduledNode.weightPositions, op]
  obtain ⟨index, rest, tensor, inputs, admitted, _⟩ := Support.of_check_unary accepted ruled
  have here : node.inputs[0]? = some index := by simp [inputs]
  obtain ⟨batch, height, width, channels, elementType, same, data⟩ :=
    finds.image 0 index here admitted.valid (by simp [plain])
  obtain ⟨options, given⟩ : ∃ options, node.options = .pool2d options := by
    rcases op with op | op <;> exact Support.takes_of_check op accepted
  have hosted : Host.outputShape? tensors shapes node =
      Host.pool? options [batch, height, width, channels] := by
    rcases op with op | op <;> rw [Host.outputShape?, op, given, at?_eq here same] <;> rfl
  rw [hosted]
  rcases op with op | op
  · rw [op] at known
    cases known
    rw [Builder.typeOf, given] at typed
    exact of_averagePool2d data typed
  · rw [op] at known
    cases known
    rw [Builder.typeOf, given] at typed
    exact of_maxPool2d data typed

theorem Finds.concatenation (finds : Finds tensors shapes builder node)
    (op : node.op = .builtin .concatenation) (known : Recipe.ofOpCode node.op = .ok recipe)
    (accepted : Support.check node.op node.inputs node.options tensors = .ok ())
    (typed : builder.typeOf tensors node recipe = .ok (told, uses)) :
    Imaged (Host.outputShape? tensors shapes node) told := by
  have ruled : Support.rule? node.op node.inputs.length = some Support.concatenationRule := by
    rw [op]
    rfl
  have plain : node.weightPositions = [] := by rw [ScheduledNode.weightPositions, op]
  obtain ⟨count, each⟩ := Support.of_check_ranked accepted ruled
  obtain ⟨lhs, rhs, inputs⟩ := List.length_eq_two.1 count
  have first : node.inputs[0]? = some lhs := by simp [inputs]
  have second : node.inputs[1]? = some rhs := by simp [inputs]
  obtain ⟨_, admitted, _⟩ := each 0 lhs first
  obtain ⟨_, admitted', _⟩ := each 1 rhs second
  obtain ⟨batch, height, width, channels, elementType, same, data⟩ :=
    finds.image 0 lhs first admitted.valid (by simp [plain])
  obtain ⟨batch', height', width', channels', elementType', same', data'⟩ :=
    finds.image 1 rhs second admitted'.valid (by simp [plain])
  obtain ⟨options, given⟩ := Support.takes_of_check op accepted
  have hosted : Host.outputShape? tensors shapes node =
      Host.joinChannels? [[batch, height, width, channels], [batch', height', width', channels']] := by
    rw [Host.outputShape?, op, given]
    simp [finds.joined options op given, inputs, same, same']
  rw [op] at known
  cases known
  rw [Builder.typeOf, given] at typed
  rw [hosted]
  exact of_concatenation inputs data data' typed

theorem Finds.resizeBilinear (finds : Finds tensors shapes builder node)
    (op : node.op = .builtin .resizeBilinear) (known : Recipe.ofOpCode node.op = .ok recipe)
    (accepted : Support.check node.op node.inputs node.options tensors = .ok ())
    (typed : builder.typeOf tensors node recipe = .ok (told, uses)) :
    Imaged (Host.outputShape? tensors shapes node) told := by
  have ruled : Support.rule? node.op node.inputs.length = some Support.unaryRule := by
    rw [op]
    rfl
  have positions : node.weightPositions = [1] := by rw [ScheduledNode.weightPositions, op]
  obtain ⟨image, rest, tensor, inputs, admitted, _⟩ := Support.of_check_unary accepted ruled
  have first : node.inputs[0]? = some image := by simp [inputs]
  obtain ⟨batch, height, width, channels, elementType, same, data⟩ :=
    finds.image 0 image first admitted.valid (by simp [positions])
  obtain ⟨options, given⟩ := Support.takes_of_check op accepted
  rw [op] at known
  cases known
  rw [Builder.typeOf, given] at typed
  obtain ⟨_, _, later⟩ := Typing.lift_bind_run_eq_ok.1 typed
  obtain ⟨_, sized, _⟩ := Typing.lift_bind_run_eq_ok.1 later
  obtain ⟨index, _, second, valid, _⟩ := Scope.reads_of_input sized
  obtain ⟨tensor', kept⟩ := finds.kept 1 (by simp [positions]) index second
  obtain ⟨id, payload, elementType', held, element, _, reads⟩ :=
    finds.payload 1 index second valid (by simp [positions]) Nat.one_pos tensor' kept
  obtain ⟨rows, columns, integers, high, wide, rfl⟩ := of_resizeBilinear data reads typed
  have sizes : Host.integers? tensor' = some [rows, columns] := by
    apply host_integers held element rfl rfl integers
    intro value member
    rcases List.mem_pair.1 member with rfl | rfl
    · exact high
    · exact wide
  have looked : Host.tensorAt? tensors node 1 = some tensor' := by
    rw [Host.tensorAt?, second]
    exact kept
  refine ⟨batch, rows.toNat, columns.toNat, channels, elementType, ?_, rfl⟩
  rw [Host.outputShape?, op, given, at?_eq first same, looked]
  simp [sizes, Host.resize?]

/-! ## Convolutions -/

theorem Finds.filter (finds : Finds tensors shapes builder node) {position : Nat} {index : OperandIndex}
    (here : node.inputs[position]? = some index) (weights : position ∈ node.weightPositions)
    (later : 0 < position) {tensor : Tensor} (admitted : Support.Admitted tensors index tensor)
    (float : tensor.tensorType = .float32) :
    Scope.Weight ⟨builder.registry, tensors⟩ builder.graph node.inputs position tensor.hostShape := by
  obtain ⟨id, data, elementType, _, typed, unflagged, reads⟩ :=
    finds.payload position index here admitted.valid weights later tensor admitted.known
  rw [float] at typed
  cases typed
  refine ⟨_, reads, rfl, ?_⟩
  rw [unflagged]
  rfl

/-- The operands of a convolution as the host sees them; `axis` is the dim of the filter that counts the
output channels. -/
structure HostConvolution (tensors : TensorContext) (shapes : Host.Shapes) (node : ScheduledNode)
    (recipe : Recipe) (axis : Nat) (source extents : Shape) (bias : Option Int32) : Prop where
  image : Host.Shapes.at? shapes node recipe.dataPosition = some source
  filter : ∃ tensor, Host.tensorAt? tensors node 1 = some tensor ∧ tensor.hostShape = extents
  fits : ∀ channels, bias = some channels → extents[axis]? = some channels.toInt.toNat
  small : ∀ extent ∈ extents, extent < Nat.pow 2 31

theorem Finds.exists_filter (finds : Finds tensors shapes builder node)
    (fed : recipe.Fed node.inputs tensors) (convolves : recipe.isConvolution = true)
    (weights : 1 ∈ node.weightPositions) :
    ∃ filter outer rows columns inner, Host.tensorAt? tensors node 1 = some filter ∧
      filter.hostShape = [outer, rows, columns, inner] ∧
      Scope.Weight ⟨builder.registry, tensors⟩ builder.graph node.inputs 1
        [outer, rows, columns, inner] := by
  obtain ⟨index, here⟩ := fed.exists_input (Recipe.Fed.positions convolves).1
  obtain ⟨filter, admitted, rule, _⟩ := fed.each 1 index here
  obtain ⟨float, rank⟩ := rule rfl
  obtain ⟨outer, rows, columns, inner, shape⟩ := exists_filter_extents rank
  have weight := finds.filter here weights Nat.one_pos admitted float
  rw [shape] at weight
  refine ⟨filter, outer, rows, columns, inner, ?_, shape, weight⟩
  rw [Host.tensorAt?, here]
  exact admitted.known

/-- The bias of a convolution has as many elements as its filter has output channels. -/
theorem Finds.exists_bias (finds : Finds tensors shapes builder node)
    (fed : recipe.Fed node.inputs tensors) (convolves : recipe.isConvolution = true) {axis : Nat}
    (biased : node.bias? = some (recipe.biasPosition, axis))
    (weights : recipe.biasPosition ∈ node.weightPositions) {filter : Tensor}
    (looked : Host.tensorAt? tensors node 1 = some filter) :
    ∃ bias, Scope.Bias ⟨builder.registry, tensors⟩ builder.graph node.inputs recipe.biasPosition bias ∧
      ∀ channels, bias = some channels → filter.hostShape[axis]? = some channels.toInt.toNat := by
  cases here : node.inputs[recipe.biasPosition]? with
  | none =>
    refine ⟨none, here, ?_⟩
    intro channels same
    cases same
  | some index =>
    obtain ⟨bias, admitted, _, rule⟩ := fed.each recipe.biasPosition index here
    obtain ⟨float, _⟩ := rule rfl
    have held : Host.tensorAt? tensors node recipe.biasPosition = some bias := by
      rw [Host.tensorAt?, here]
      exact admitted.known
    obtain ⟨channels, counted, dims⟩ := finds.biases _ axis biased bias filter held looked
    have later : 0 < recipe.biasPosition := Nat.lt_of_succ_lt (Recipe.Fed.positions convolves).1
    refine ⟨some channels, bias_of_weight here admitted dims
      (finds.filter here weights later admitted float), ?_⟩
    intro channels' same
    cases same
    rw [Tensor.hostShape, List.getElem?_map, counted]
    rfl

/-- A convolution finds an image, a filter of four extents and a bias of one, if any. -/
theorem Finds.convolution (finds : Finds tensors shapes builder node)
    (known : Recipe.ofOpCode node.op = .ok recipe) (convolves : recipe.isConvolution = true)
    (accepted : Support.check node.op node.inputs node.options tensors = .ok ())
    {axis : Nat} (biased : node.bias? = some (recipe.biasPosition, axis))
    (positions : 1 ∈ node.weightPositions ∧ recipe.biasPosition ∈ node.weightPositions ∧
      recipe.dataPosition ∉ node.weightPositions) :
    ∃ batch height width channels elementType outer rows columns inner bias,
      Scope.Convolution ⟨builder.registry, tensors⟩ builder.graph node.inputs recipe
        ([batch, channels, height, width], elementType) outer rows columns inner bias ∧
      HostConvolution tensors shapes node recipe axis [batch, height, width, channels]
        [outer, rows, columns, inner] bias := by
  have fed := accepted_convolution known convolves accepted
  obtain ⟨source, read⟩ := fed.exists_input (Recipe.Fed.positions convolves).2
  obtain ⟨_, admitted, _⟩ := fed.each recipe.dataPosition source read
  obtain ⟨batch, height, width, channels, elementType, same, data⟩ :=
    finds.image recipe.dataPosition source read admitted.valid positions.2.2
  obtain ⟨filter, outer, rows, columns, inner, looked, shape, weight⟩ :=
    finds.exists_filter fed convolves positions.1
  obtain ⟨bias, added, fits⟩ := finds.exists_bias fed convolves biased positions.2.1 looked
  have small : ∀ extent ∈ [outer, rows, columns, inner], extent < Nat.pow 2 31 := by
    rw [← shape]
    intro extent member
    obtain ⟨dim, _, rfl⟩ := List.mem_map.1 member
    exact toNat_lt dim
  rw [shape] at fits
  exact ⟨batch, height, width, channels, elementType, outer, rows, columns, inner, bias,
    ⟨data, weight, added⟩, ⟨at?_eq read same, ⟨filter, looked, shape⟩, fits, small⟩⟩

theorem Finds.conv2d (finds : Finds tensors shapes builder node) (op : node.op = .builtin .conv2d)
    (accepted : Support.check node.op node.inputs node.options tensors = .ok ())
    (typed : builder.typeOf tensors node .conv2d = .ok (told, uses)) :
    Imaged (Host.outputShape? tensors shapes node) told := by
  have positions : node.weightPositions = [1, 2] := by rw [ScheduledNode.weightPositions, op]
  have biased : node.bias? = some (2, 0) := by rw [ScheduledNode.bias?, op]
  have known : Recipe.ofOpCode node.op = .ok .conv2d := by
    rw [op]
    rfl
  obtain ⟨options, given⟩ := Support.takes_of_check op accepted
  obtain ⟨batch, height, width, channels, elementType, outer, rows, columns, inner, bias, operands,
    hosted⟩ := finds.convolution known rfl accepted biased
      (by simp [positions, Recipe.biasPosition, Recipe.dataPosition])
  rw [Builder.typeOf, given] at typed
  change (Typing.conv2d _ _ _ (.conv2d options)).run [] = _ at typed
  rw [conv2d_eq operands.data operands.filter operands.bias] at typed
  have image : Host.Shapes.at? shapes node 0 = some [batch, height, width, channels] := hosted.image
  obtain ⟨tensor, looked, shape⟩ := hosted.filter
  have rule : Host.outputShape? tensors shapes node =
      Host.convolve? options [batch, height, width, channels] [outer, rows, columns, inner] := by
    rw [Host.outputShape?, op, given, image, looked]
    simp [shape]
  rw [rule]
  apply of_convolved_image typed
  intro outputs same
  exact (Option.some.inj (hosted.fits outputs same)).symm

theorem Finds.depthwiseConv2d (finds : Finds tensors shapes builder node)
    (op : node.op = .builtin .depthwiseConv2d)
    (accepted : Support.check node.op node.inputs node.options tensors = .ok ())
    (typed : builder.typeOf tensors node .depthwiseConv2d = .ok (told, uses)) :
    Imaged (Host.outputShape? tensors shapes node) told := by
  have positions : node.weightPositions = [1, 2] := by rw [ScheduledNode.weightPositions, op]
  have biased : node.bias? = some (2, 3) := by rw [ScheduledNode.bias?, op]
  have known : Recipe.ofOpCode node.op = .ok .depthwiseConv2d := by
    rw [op]
    rfl
  obtain ⟨options, given⟩ := Support.takes_of_check op accepted
  obtain ⟨batch, height, width, channels, elementType, outer, rows, columns, inner, bias, operands,
    hosted⟩ := finds.convolution known rfl accepted biased
      (by simp [positions, Recipe.biasPosition, Recipe.dataPosition])
  rw [Builder.typeOf, given] at typed
  change (Typing.depthwiseConv2d _ _ _ (.depthwiseConv2d options)).run [] = _ at typed
  rw [depthwiseConv2d_eq operands.data operands.filter operands.bias] at typed
  have image : Host.Shapes.at? shapes node 0 = some [batch, height, width, channels] := hosted.image
  obtain ⟨tensor, looked, shape⟩ := hosted.filter
  have rule : Host.outputShape? tensors shapes node =
      Host.convolveDepthwise? options [batch, height, width, channels] [outer, rows, columns, inner] := by
    rw [Host.outputShape?, op, given, image, looked]
    simp [shape]
  rw [rule]
  apply of_depthwise_image typed
  · intro extent member
    have small := hosted.small
    simp only [List.mem_cons, List.not_mem_nil, or_false] at member
    apply small
    simp only [List.mem_cons, List.not_mem_nil, or_false]
    tauto
  · intro outputs same
    exact (Option.some.inj (hosted.fits outputs same)).symm

theorem of_outputDims {scope : Scope} {dims : List Int32}
    (known : Emission.outputDims scope node.inputs = .ok dims) :
    ∃ tensor, Host.tensorAt? scope.tensors node 0 = some tensor ∧ tensor.int32Values? = some dims := by
  rw [Emission.outputDims, List.head?_eq_getElem?] at known
  cases here : node.inputs[0]? with
  | none => simp [here] at known
  | some index =>
    simp only [here] at known
    obtain ⟨tensor, found, rest⟩ := bind_eq_ok.1 known
    refine ⟨tensor, ?_, ?_⟩
    · rw [Host.tensorAt?, here]
      exact tensor_eq_ok.1 found
    · cases values : tensor.int32Values? with
      | none => simp [values] at rest
      | some dims' => simpa [values] using rest

theorem Finds.transposeConv (finds : Finds tensors shapes builder node)
    (op : node.op = .builtin .transposeConv)
    (accepted : Support.check node.op node.inputs node.options tensors = .ok ())
    (typed : builder.typeOf tensors node .transposeConv = .ok (told, uses)) :
    Imaged (Host.outputShape? tensors shapes node) told := by
  have positions : node.weightPositions = [0, 1, 3] := by rw [ScheduledNode.weightPositions, op]
  have biased : node.bias? = some (3, 0) := by rw [ScheduledNode.bias?, op]
  have known : Recipe.ofOpCode node.op = .ok .transposeConv := by
    rw [op]
    rfl
  obtain ⟨options, given⟩ := Support.takes_of_check op accepted
  obtain ⟨batch, height, width, channels, elementType, outer, rows, columns, inner, bias, operands,
    hosted⟩ := finds.convolution known rfl accepted biased
      (by simp [positions, Recipe.biasPosition, Recipe.dataPosition])
  rw [Builder.typeOf, given] at typed
  change (Typing.transposeConv _ _ _ (.transposeConv options)).run [] = _ at typed
  rw [transposeConv_eq operands.data operands.filter operands.bias] at typed
  have image : Host.Shapes.at? shapes node 2 = some [batch, height, width, channels] := hosted.image
  obtain ⟨tensor, looked, shape⟩ := hosted.filter
  have fits : ∀ outputs, bias = some outputs → outputs.toInt.toNat = outer := by
    intro outputs same
    exact (Option.some.inj (hosted.fits outputs same)).symm
  obtain ⟨dims, read, imaged⟩ := of_spread_image typed fits
  obtain ⟨tensor', held, values⟩ := of_outputDims read
  have rule : Host.outputShape? tensors shapes node =
      Host.convolveTransposed? dims [batch, height, width, channels] [outer, rows, columns, inner] := by
    rw [Host.outputShape?, op, given, image, looked, held]
    simp [values, shape]
  rw [rule]
  exact imaged

/-- Every operator of a network on images comes to an image that the host infers. -/
theorem Finds.imaged (finds : Finds tensors shapes builder node) {operator : BuiltinOperator}
    (listed : operator ∈ imageOperators) (op : node.op = .builtin operator)
    (known : Recipe.ofOpCode node.op = .ok recipe)
    (accepted : Support.check node.op node.inputs node.options tensors = .ok ())
    (typed : builder.typeOf tensors node recipe = .ok (told, uses)) :
    Imaged (Host.outputShape? tensors shapes node) told := by
  have one : operator ∈ [.relu, .relu6, .tanh, .logistic, .hardSwish] ∨ operator = .softmax →
      0 ∉ node.weightPositions → Imaged (Host.outputShape? tensors shapes node) told := by
    intro kind plain
    obtain ⟨recipe', operation, unary⟩ := unary_of_op op kind
    have same := unary.known
    rw [known] at same
    cases same
    exact finds.unary unary plain accepted typed
  have two : ∀ {recipe' : Recipe} {operation : Op} {activation : Activation},
      node.Binary recipe' operation activation → node.weightPositions = [] →
      Imaged (Host.outputShape? tensors shapes node) told := by
    intro recipe' operation activation binary plain
    have same := binary.known
    rw [known] at same
    cases same
    exact finds.binary binary plain accepted typed
  simp only [imageOperators, List.mem_cons, List.not_mem_nil, or_false] at listed
  rcases listed with rfl | rfl | rfl | rfl | rfl | rfl | rfl | rfl | rfl | rfl | rfl | rfl | rfl | rfl |
    rfl
  -- first the operators on one image
  iterate 6
    · exact one (by simp) (by simp [ScheduledNode.weightPositions, op])
  · exact finds.pool (.inl op) known accepted typed
  · exact finds.pool (.inr op) known accepted typed
  · rw [op] at known
    cases known
    exact finds.conv2d op accepted typed
  · rw [op] at known
    cases known
    exact finds.depthwiseConv2d op accepted typed
  · rw [op] at known
    cases known
    exact finds.transposeConv op accepted typed
  · exact finds.concatenation op known accepted typed
  · exact finds.resizeBilinear op known accepted typed
  · obtain ⟨options, given⟩ := Support.takes_of_check op accepted
    exact two (binary_of_add op given) (by rw [ScheduledNode.weightPositions, op])
  · obtain ⟨options, given⟩ := Support.takes_of_check op accepted
    exact two (binary_of_mul op given) (by rw [ScheduledNode.weightPositions, op])

end Operators

/-! ## Runs -/

section Runs

variable {partition : Partition} {tensors : TensorContext}

theorem ImageNetwork.suits (network : ImageNetwork partition tensors) {node : ScheduledNode}
    (member : node ∈ partition.nodes) {index : OperandIndex} (needed : index ∈ node.neededInputs)
    (given : index ∈ partition.inputs) : Suits tensors FourAxes index := by
  obtain ⟨read, valid⟩ := mem_of_mem_neededInputs needed
  obtain ⟨tensor, known, rank, mutable⟩ := network.images node member index read valid given
  refine ⟨tensor, known, mutable, .inl rank, ?_⟩
  intro elementType _
  rw [FourAxes, Tensor.hostShape, List.length_map]
  exact rank

theorem Mirrors.lower_image (network : ImageNetwork partition tensors)
    {before after : List ScheduledNode} {node : ScheduledNode}
    (split : partition.nodes = before ++ node :: after) {shapes : Host.Shapes}
    (reached : Host.run? tensors (Host.inputShapes partition tensors) before = some shapes)
    {builder last : Builder} (mirrors : Mirrors partition tensors FourAxes shapes builder)
    (bound : ∀ index, Host.Written before index → builder.Bound index) {given : List OperandIndex}
    (ran : partition.lowerNode tensors node builder = .ok given last) :
    ∃ output shape, node.outputs.head? = some output ∧
      Host.outputShape? tensors shapes node = some shape ∧
      Mirrors partition tensors FourAxes (shapes.write output shape) last ∧ builder.Keeps last ∧
      last.Bound output := by
  have member : node ∈ partition.nodes := by simp [split]
  obtain ⟨accepted, between, registered, lowered⟩ := partition_lowerNode_eq_ok.1 ran
  have suits : ∀ index ∈ node.neededInputs, ¬builder.Bound index → index ∈ partition.inputs →
      Suits tensors FourAxes index := by
    intro index needed _ given
    exact network.suits member needed given
  obtain ⟨mirrors', keeps, provided⟩ := mirrors.materializeAll suits registered
  have bound' : ∀ index, Host.Written before index → between.Bound index := by
    intro index written
    exact keeps.bound index (bound index written)
  have finds := network.finds split reached mirrors' bound' provided
  obtain ⟨output, recipe, told, uses, target, typed, keeps', held, stands⟩ :=
    mirrors'.lowerNode lowered
  obtain ⟨_, first, known⟩ := Builder.target_eq_ok.1 target
  obtain ⟨operator, listed, op⟩ := network.operators node member
  obtain ⟨batch, height, width, channels, elementType, hosted, rfl⟩ :=
    finds.imaged listed op known accepted typed
  exact ⟨output, [batch, height, width, channels], first, hosted,
    stands [batch, height, width, channels] elementType rfl rfl, keeps.trans keeps', held⟩

/-- The nodes of a network from some node on, after they have been lowered. -/
theorem Mirrors.lowerNodes_image (network : ImageNetwork partition tensors)
    {before rest : List ScheduledNode} {shapes : Host.Shapes} {builder last : Builder}
    {given : List OperandIndex} (split : partition.nodes = before ++ rest)
    (reached : Host.run? tensors (Host.inputShapes partition tensors) before = some shapes)
    (mirrors : Mirrors partition tensors FourAxes shapes builder)
    (bound : ∀ index, Host.Written before index → builder.Bound index)
    (ran : partition.lowerNodes tensors rest builder = .ok given last) :
    ∃ final, Host.run? tensors (Host.inputShapes partition tensors) partition.nodes = some final ∧
      Mirrors partition tensors FourAxes final last ∧ builder.Keeps last := by
  have kept := lowerNodes_keeps
    (fun nodes (_ : List OperandIndex) here => ∃ shapes,
      Host.run? tensors (Host.inputShapes partition tensors) nodes = some shapes ∧
      Mirrors partition tensors FourAxes shapes here ∧ builder.Keeps here ∧
      ∀ index, Host.Written nodes index → here.Bound index)
    ?_ before [] split ⟨shapes, reached, mirrors, .refl _, bound⟩ ran
  · obtain ⟨final, inferred, mirrors', keeps, _⟩ := kept
    exact ⟨final, inferred, mirrors', keeps⟩
  rintro before rest node _ _ between next split ⟨shapes, reached, mirrors, keeps, bound⟩ ran
  obtain ⟨output, shape, first, hosted, mirrors', keeps', held⟩ :=
    Mirrors.lower_image network split reached mirrors bound ran
  refine ⟨_, Host.run?_snoc reached hosted first, mirrors', keeps.trans keeps', ?_⟩
  intro index written
  rcases Host.written_append_singleton.1 written with earlier | last
  · exact keeps'.bound index (bound index earlier)
  · rw [first] at last
    cases last
    exact held

end Runs

/-- A network on images that lowers: the host infers its shapes, and each result has the shape that the
host infers. -/
theorem image_networks_keep_shapes (partition : Partition) (tensors : TensorContext)
    (settings : Settings) (lowered : LoweredPartition) (network : ImageNetwork partition tensors)
    (success : partition.lower tensors settings = .ok lowered) :
    ∃ shapes,
      Host.run? tensors (Host.inputShapes partition tensors) partition.nodes = some shapes ∧
      List.Forall₂ (fun index id => ∃ node, lowered.model.graph.node? id = some node ∧
        shapes index = some node.shape) partition.outputs lowered.model.results := by
  obtain ⟨inputs, built, last, ids, lowers⟩ := lowers_of_lower success
  have unwritten : ∀ index, Host.Written [] index → Builder.Bound {} index :=
    fun index written => absurd written Host.not_written_nil
  obtain ⟨shapes, inferred, mirrors, keeps⟩ := Mirrors.lowerNodes_image network
    (List.nil_append _).symm rfl mirrors_empty unwritten lowers.lowered
  have ready : ∀ index ∈ partition.outputs, built.Bound index ∧ shapes index ≠ none := by
    intro index declared
    have bound := bound_of_resultNodes lowers.results index declared
    refine ⟨bound, ?_⟩
    rcases network.outputs index declared with given | written
    · exact mirrors.known_of_input bound given
    · exact Host.ne_none_of_written inferred written
  have low : ∀ type, FourAxes type → type.1.length ≤ 4 := fun _ rank => Nat.le_of_eq rank
  obtain ⟨ids', last', results, _, kept, shown⟩ := Mirrors.resultNodes_ok low mirrors ready
  rw [lowers.results] at results
  cases results
  obtain ⟨lowered', success', graph, order⟩ := lowers.lower_eq settings
  rw [success] at success'
  cases success'
  have none_before : last.results = [] := kept.trans keeps.results_eq
  refine ⟨shapes, inferred, ?_⟩
  rw [order, graph, none_before, List.nil_append]
  apply shown.imp
  rintro index id ⟨shape, node, known, rank, found, same⟩
  rw [Shape.padLeft_of_length rank] at same
  exact ⟨node, found, by rw [known, same]⟩

/-! ### An image of five by seven pixels, convolved, resized and joined -/

namespace ImageExample

def tensors : TensorContext :=
  OperandMap.ofList [(0, { tensorType := .float32, dims := [1, 5, 7, 2] }),
    (1, Tensor.constantFloat32 [3, 1, 2, 2] (List.replicate 12 1)),
    (2, Tensor.constantFloat32 [3] [1, 2, 3]),
    (3, { tensorType := .float32, dims := [1, 5, 3, 3] }),
    (4, Tensor.constantInt32 [2] [5, 7]),
    (5, { tensorType := .float32, dims := [1, 5, 7, 3] }),
    (6, { tensorType := .float32, dims := [1, 5, 7, 5] })]

def convolved : ScheduledNode where
  id := 0
  op := .builtin .conv2d
  inputs := [0, 1, 2]
  outputs := [3]
  options := .conv2d { padding := .valid, strideWidth := 2 }

def resized : ScheduledNode where
  id := 1
  op := .builtin .resizeBilinear
  inputs := [3, 4]
  outputs := [5]
  options := .resizeBilinear {}

def joined : ScheduledNode where
  id := 2
  op := .builtin .concatenation
  inputs := [0, 5]
  outputs := [6]
  options := .concatenation { axis := 3 }

def partition : Partition where
  inputs := [0]
  outputs := [6, 3]
  nodes := [convolved, resized, joined]

theorem split_cases {before after : List ScheduledNode} {node : ScheduledNode}
    (split : partition.nodes = before ++ node :: after) :
    before = [] ∧ node = convolved ∨ before = [convolved] ∧ node = resized ∨
      before = [convolved, resized] ∧ node = joined := by
  rcases before with _ | ⟨first, _ | ⟨second, _ | ⟨third, others⟩⟩⟩
  · cases split
    exact .inl ⟨rfl, rfl⟩
  · cases split
    exact .inr (.inl ⟨rfl, rfl⟩)
  · cases split
    exact .inr (.inr ⟨rfl, rfl⟩)
  · have lengths := congrArg List.length split
    simp [partition] at lengths

theorem network : ImageNetwork partition tensors where
  operators := by decide
  joined := by
    intro node member options op given
    simp only [partition, List.mem_cons, List.not_mem_nil, or_false] at member
    rcases member with rfl | rfl | rfl
    · cases op
    · cases op
    · cases given
      rfl
  images := by
    intro node member index read _ given
    rw [List.mem_singleton.1 given]
    exact ⟨_, rfl, rfl, nofun⟩
  weights := by
    intro node member position weights index here
    simp only [partition, List.mem_cons, List.not_mem_nil, or_false] at member
    rcases member with rfl | rfl | rfl
    · rcases List.mem_pair.1 weights with rfl | rfl
      · cases here
        exact ⟨by decide, _, rfl, rfl⟩
      · cases here
        exact ⟨by decide, _, rfl, rfl⟩
    · cases List.mem_singleton.1 weights
      cases here
      exact ⟨by decide, _, rfl, rfl⟩
    · cases weights
  biases := by
    intro node member position axis biased bias filter known known'
    simp only [partition, List.mem_cons, List.not_mem_nil, or_false] at member
    rcases member with rfl | rfl | rfl
    · cases biased
      cases known
      cases known'
      exact ⟨3, rfl, rfl⟩
    · cases biased
    · cases biased
  operands := by
    intro before node after split position index here _ data
    rcases split_cases split with ⟨rfl, rfl⟩ | ⟨rfl, rfl⟩ | ⟨rfl, rfl⟩
    · rcases position with _ | _ | _ | position
      · cases here
        exact .inl (by decide)
      · exact absurd (by decide) data
      · exact absurd (by decide) data
      · cases here
    · rcases position with _ | _ | position
      · cases here
        exact .inr (by decide)
      · exact absurd (by decide) data
      · cases here
    · rcases position with _ | _ | position
      · cases here
        exact .inl (by decide)
      · cases here
        exact .inr (by decide)
      · cases here
  outputs := by
    intro index declared
    rcases List.mem_pair.1 declared with rfl | rfl
    · exact .inr ⟨joined, by decide, rfl⟩
    · exact .inr ⟨convolved, by decide, rfl⟩

def lowers : Bool :=
  match partition.lower tensors {} with
  | .ok _ => true
  | .error _ => false

end ImageExample

open ImageExample in
theorem image_networks_keep_shapes_joined :
    ∃ shapes lowered, partition.lower tensors {} = .ok lowered ∧
      Host.run? tensors (Host.inputShapes partition tensors) partition.nodes = some shapes ∧
      List.Forall₂ (fun index id => ∃ node, lowered.model.graph.node? id = some node ∧
        shapes index = some node.shape) [6, 3] lowered.model.results := by
  have success : lowers = true := by decide +kernel
  rw [lowers] at success
  cases outcome : partition.lower tensors {} with
  | error failure => simp [outcome] at success
  | ok lowered =>
    obtain ⟨shapes, inferred, shown⟩ := image_networks_keep_shapes partition tensors {} lowered network outcome
    exact ⟨shapes, lowered, rfl, inferred, shown⟩

end PartitionLowering
