import PartitionLowering.Engine.Shape
import PartitionLowering.Host.Partition

/-!
Shape inference in the host's layout, by itself: what shape the host gives to the first output of each
node, images held as batch, height, width, channels.  `Host.outputShape?` is the rule of a node,
`Host.run?` goes through the nodes in order.
-/

set_option autoImplicit false

namespace PartitionLowering

def Tensor.hostShape (tensor : Tensor) : Shape :=
  tensor.dims.map fun dim => dim.toInt.toNat

namespace Host

/-! ## Rules -/

/-- The broadcast of two shapes that are given from their last axis on. -/
def broadcastFromLast? : Shape → Shape → Option Shape
  | [], rest => some rest
  | rest, [] => some rest
  | a :: lhs, b :: rhs =>
    if a = b ∨ b = 1 then (broadcastFromLast? lhs rhs).map (a :: ·)
    else if a = 1 then (broadcastFromLast? lhs rhs).map (b :: ·)
    else none

/-- The broadcast of two shapes of any ranks, aligned at their last axis. -/
def broadcast? (lhs rhs : Shape) : Option Shape :=
  (broadcastFromLast? lhs.reverse rhs.reverse).map List.reverse

def count (value : Int32) : Nat :=
  value.toInt.toNat

/-- The extent of the output of a sliding window: rounded up where the ends are padded, down where they
are not. -/
def windowExtent? (padding : Padding) (extent kernel stride dilation : Nat) : Option Nat :=
  let reach := (kernel - 1) * dilation + 1
  if padding = .same then some ((extent + stride - 1) / stride)
  else if extent < reach then none
  else some ((extent + stride - reach) / stride)

def pool? (options : Pool2dOptions) : Shape → Option Shape
  | [batch, height, width, channels] => do
    let height ← windowExtent? options.padding height (count options.filterHeight)
      (count options.strideHeight) 1
    let width ← windowExtent? options.padding width (count options.filterWidth)
      (count options.strideWidth) 1
    return [batch, height, width, channels]
  | _ => none

/-- A filter of output channels, height, width and input channels. -/
def convolve? (options : Conv2dOptions) : Shape → Shape → Option Shape
  | [batch, height, width, channels], [outputs, kernelHeight, kernelWidth, inputs] => do
    let height ← windowExtent? options.padding height kernelHeight (count options.strideHeight)
      (count options.dilationHeightFactor)
    let width ← windowExtent? options.padding width kernelWidth (count options.strideWidth)
      (count options.dilationWidthFactor)
    if inputs = channels then some [batch, height, width, outputs] else none
  | _, _ => none

/-- A filter whose last extent is the count of output channels. -/
def convolveDepthwise? (options : DepthwiseConv2dOptions) : Shape → Shape → Option Shape
  | [batch, height, width, _], [_, kernelHeight, kernelWidth, outputs] => do
    let height ← windowExtent? options.padding height kernelHeight (count options.strideHeight)
      (count options.dilationHeightFactor)
    let width ← windowExtent? options.padding width kernelWidth (count options.strideWidth)
      (count options.dilationWidthFactor)
    return [batch, height, width, outputs]
  | _, _ => none

def convolveTransposed? (dims : List Int32) : Shape → Shape → Option Shape
  | [batch, _, _, channels], [outputs, _, _, inputs] =>
    match dims with
    | _ :: height :: width :: _ =>
      if inputs = channels then some [batch, count height, count width, outputs] else none
    | _ => none
  | _, _ => none

/-- Images of one batch, height and width, their channels added up. -/
def joinChannels? : List Shape → Option Shape
  | [] => none
  | [image] => some image
  | image :: rest => do
    match image, ← joinChannels? rest with
    | [batch, height, width, channels], [batch', height', width', channels'] =>
      if batch = batch' ∧ height = height' ∧ width = width' then
        some [batch, height, width, channels + channels']
      else none
    | _, _ => none

def resize? (sizes : List Int) : Shape → Option Shape
  | [batch, _, _, channels] =>
    match sizes with
    | [height, width] => some [batch, height.toNat, width.toNat, channels]
    | _ => none
  | _ => none

def integers? (tensor : Tensor) : Option (List Int) := do
  let data ← tensor.data
  let signed (width : Nat) := (LittleEndian.groups width data).map LittleEndian.signed
  let unsigned (width : Nat) := (LittleEndian.groups width data).map fun bytes =>
    (LittleEndian.unsigned bytes : Int)
  match tensor.tensorType with
  | .int8 => some (signed 1)
  | .int16 => some (signed 2)
  | .int32 => some (signed 4)
  | .int64 => some (signed 8)
  | .uint8 => some (unsigned 1)
  | .uint16 => some (unsigned 2)
  | .uint32 => some (unsigned 4)
  | .uint64 => some (unsigned 8)
  | _ => none

/-! ## Nodes -/

abbrev Shapes := OperandIndex → Option Shape

def Shapes.write (shapes : Shapes) (index : OperandIndex) (shape : Shape) : Shapes :=
  fun other => if other = index then some shape else shapes other

def Shapes.at? (shapes : Shapes) (node : ScheduledNode) (position : Nat) : Option Shape :=
  node.inputs[position]?.bind shapes

def tensorAt? (tensors : TensorContext) (node : ScheduledNode) (position : Nat) : Option Tensor :=
  node.inputs[position]?.bind tensors.get?

/-- The shape of a node's first output. -/
def outputShape? (tensors : TensorContext) (shapes : Shapes) (node : ScheduledNode) : Option Shape :=
  match node.op, node.options with
  | .builtin .relu, _ | .builtin .relu6, _ | .builtin .tanh, _ | .builtin .logistic, _
  | .builtin .hardSwish, _ | .builtin .softmax, _ => shapes.at? node 0
  | .builtin .add, _ | .builtin .mul, _ => do
    broadcast? (← shapes.at? node 0) (← shapes.at? node 1)
  | .builtin .averagePool2d, .pool2d options | .builtin .maxPool2d, .pool2d options => do
    pool? options (← shapes.at? node 0)
  | .builtin .conv2d, .conv2d options => do
    convolve? options (← shapes.at? node 0) (← tensorAt? tensors node 1).hostShape
  | .builtin .depthwiseConv2d, .depthwiseConv2d options => do
    convolveDepthwise? options (← shapes.at? node 0) (← tensorAt? tensors node 1).hostShape
  | .builtin .transposeConv, _ => do
    let dims ← (← tensorAt? tensors node 0).int32Values?
    convolveTransposed? dims (← shapes.at? node 2) (← tensorAt? tensors node 1).hostShape
  | .builtin .concatenation, .concatenation options => do
    if options.axis = 3 then joinChannels? (← node.inputs.mapM shapes) else none
  | .builtin .resizeBilinear, _ => do
    resize? (← integers? (← tensorAt? tensors node 1)) (← shapes.at? node 0)
  | _, _ => none

def inputShapes (partition : Partition) (tensors : TensorContext) : Shapes := fun index =>
  if index ∈ partition.inputs then (tensors.get? index).map Tensor.hostShape else none

/-- The shapes after nodes that run in order, each writing its first output. -/
def run? (tensors : TensorContext) (shapes : Shapes) : List ScheduledNode → Option Shapes
  | [] => some shapes
  | node :: rest => do
    let shape ← outputShape? tensors shapes node
    let output ← node.outputs.head?
    run? tensors (shapes.write output shape) rest

/-! ## Runs -/

/-- The operands of which a node needs the nodes, in order.  An operand that is left out has none, and of the
output dims of a transposed convolution only the values are used. -/
def scanned (node : ScheduledNode) : List OperandIndex :=
  node.inputs.zipIdx.filterMap fun (index, position) =>
    if index < 0 ∨ node.op = .builtin .transposeConv ∧ position = 0 then none else some index

/-- An operand is the first output of one of the nodes. -/
def Written (nodes : List ScheduledNode) (index : OperandIndex) : Prop :=
  ∃ node ∈ nodes, node.outputs.head? = some index

instance (nodes : List ScheduledNode) (index : OperandIndex) : Decidable (Written nodes index) :=
  inferInstanceAs (Decidable (∃ node ∈ nodes, node.outputs.head? = some index))

section Runs

variable {tensors : TensorContext} {shapes after : Shapes} {node : ScheduledNode}
  {nodes : List ScheduledNode} {index : OperandIndex}

theorem not_written_nil : ¬Written [] index := by
  simp [Written]

theorem written_append_singleton :
    Written (nodes ++ [node]) index ↔ Written nodes index ∨ node.outputs.head? = some index := by
  constructor
  · rintro ⟨other, member, first⟩
    rcases List.mem_append.1 member with earlier | last
    · exact .inl ⟨other, earlier, first⟩
    · rw [List.mem_singleton.1 last] at first
      exact .inr first
  · rintro (⟨other, member, first⟩ | first)
    · exact ⟨other, List.mem_append_left _ member, first⟩
    · exact ⟨node, List.mem_append_right _ (List.mem_singleton.2 rfl), first⟩

theorem run?_cons_eq_some :
    run? tensors shapes (node :: nodes) = some after ↔
      ∃ shape output, outputShape? tensors shapes node = some shape ∧
        node.outputs.head? = some output ∧
          run? tensors (shapes.write output shape) nodes = some after := by
  rw [run?]
  cases outputShape? tensors shapes node with
  | none => simp
  | some shape => cases node.outputs.head? <;> simp

theorem run?_append (first second : List ScheduledNode) :
    run? tensors shapes (first ++ second) =
      (run? tensors shapes first).bind fun between => run? tensors between second := by
  induction first generalizing shapes with
  | nil => rfl
  | cons node rest ih =>
    rw [List.cons_append, run?, run?]
    cases outputShape? tensors shapes node with
    | none => rfl
    | some shape =>
      cases node.outputs.head? with
      | none => rfl
      | some output => exact ih

theorem run?_snoc {start : Shapes} (ran : run? tensors start nodes = some shapes) {shape : Shape}
    (hosted : outputShape? tensors shapes node = some shape) (first : node.outputs.head? = some index) :
    run? tensors start (nodes ++ [node]) = some (shapes.write index shape) := by
  rw [run?_append, ran]
  exact run?_cons_eq_some.2 ⟨shape, index, hosted, first, rfl⟩

theorem run?_cases (ran : run? tensors shapes nodes = some after) (index : OperandIndex) :
    Written nodes index ∧ after index ≠ none ∨ ¬Written nodes index ∧ after index = shapes index := by
  induction nodes generalizing shapes with
  | nil =>
    cases ran
    exact .inr ⟨not_written_nil, rfl⟩
  | cons node rest ih =>
    obtain ⟨shape, output, _, first, ran⟩ := run?_cons_eq_some.1 ran
    have split : Written (node :: rest) index ↔ index = output ∨ Written rest index := by
      constructor
      · rintro ⟨other, member, here⟩
        rcases List.mem_cons.1 member with rfl | later
        · rw [first] at here
          exact .inl (Option.some.inj here).symm
        · exact .inr ⟨other, later, here⟩
      · rintro (rfl | ⟨other, later, here⟩)
        · exact ⟨node, List.mem_cons_self, first⟩
        · exact ⟨other, List.mem_cons_of_mem _ later, here⟩
    rcases ih ran with ⟨later, some⟩ | ⟨never, same⟩
    · exact .inl ⟨split.2 (.inr later), some⟩
    · by_cases here : index = output
      · left
        refine ⟨split.2 (.inl here), ?_⟩
        rw [same, Shapes.write, if_pos here]
        exact Option.some_ne_none shape
      · right
        refine ⟨fun some => (split.1 some).elim here never, ?_⟩
        rw [same, Shapes.write, if_neg here]

theorem origin_of_run {partition : Partition}
    (ran : run? tensors (inputShapes partition tensors) nodes = some after)
    (known : after index ≠ none) : index ∈ partition.inputs ∨ Written nodes index := by
  rcases run?_cases ran index with ⟨written, _⟩ | ⟨_, same⟩
  · exact .inr written
  · left
    rw [same, inputShapes] at known
    by_cases member : index ∈ partition.inputs
    · exact member
    · rw [if_neg member] at known
      exact absurd rfl known

theorem ne_none_of_written {partition : Partition}
    (ran : run? tensors (inputShapes partition tensors) nodes = some after)
    (written : Written nodes index) : after index ≠ none := by
  rcases run?_cases ran index with ⟨_, known⟩ | ⟨never, _⟩
  · exact known
  · exact absurd written never

theorem ne_none_of_input {partition : Partition}
    (ran : run? tensors (inputShapes partition tensors) nodes = some after)
    (given : index ∈ partition.inputs) {tensor : Tensor} (known : tensors.get? index = some tensor) :
    after index ≠ none := by
  rcases run?_cases ran index with ⟨_, some⟩ | ⟨_, same⟩
  · exact some
  · rw [same, inputShapes, if_pos given, known]
    exact Option.some_ne_none _

end Runs

end Host

end PartitionLowering
