import PartitionLowering.Proofs.Lowering.Images
import PartitionLowering.Proofs.Networks.Elementwise
import PartitionLowering.Proofs.Networks.SingleNode

/-!
Sums and products of an image that the host feeds and weights.  The image stands in the engine's layout and
the weights in the host's, so that the weights are broadcast as if their second axis were the channels
(`Combines.lower_iff`).  `arithmetic_with_weights` says when that is the host's broadcast.
-/

set_option autoImplicit false

namespace PartitionLowering

def ScheduledNode.Arithmetic (node : ScheduledNode) : Prop :=
  (node.op = .builtin .add ∧ node.options = .add ⟨.none⟩) ∨
    (node.op = .builtin .mul ∧ node.options = .mul ⟨.none⟩)

theorem ScheduledNode.Arithmetic.binary {node : ScheduledNode} (arithmetic : node.Arithmetic) :
    ∃ recipe op, node.Binary recipe op .none ∧ node.op ≠ .builtin .transposeConv := by
  rcases arithmetic with ⟨op, options⟩ | ⟨op, options⟩
  · refine ⟨.add, .add, binary_of_add op options, ?_⟩
    rw [op]
    decide
  · refine ⟨.mul, .multiply, binary_of_mul op options, ?_⟩
    rw [op]
    decide

/-- A sum or a product of an image that the host feeds and of weights whose payload has the right size, in
either order. -/
structure Partition.Combines (partition : Partition) (tensors : TensorContext) (node : ScheduledNode)
    (data held output : OperandIndex) (image weights : Tensor) : Prop where
  lone : partition.Lone node output
  arithmetic : node.Arithmetic
  inputs : node.inputs = [data, held] ∨ node.inputs = [held, data]
  fed : FedOperand partition tensors data image
  rank : image.rank = 4
  known : tensors.get? held = some weights
  kept : weights.allocation = .mmapRo
  sized : ∃ payload, weights.data = some payload ∧ weights.byteSize? = some payload.length

/-! ## Types -/

section Types

variable {tensors : TensorContext} {node : ScheduledNode} {recipe : Recipe} {op : Op}
  {builder : Builder}

/-- Two operands of single-precision numbers have a type where their shapes broadcast. -/
theorem ScheduledNode.Binary.typeOf_iff (binary : node.Binary recipe op .none) {lhs rhs : Shape}
    (first : Scope.Data ⟨builder.registry, tensors⟩ builder.graph node.inputs 0 (lhs, .f32))
    (second : Scope.Data ⟨builder.registry, tensors⟩ builder.graph node.inputs 1 (rhs, .f32))
    {type : OutputType} :
    (∃ uses, builder.typeOf tensors node recipe = .ok (type, uses)) ↔
      ∃ shape, Shape.broadcast? lhs rhs = some shape ∧ type = (shape, .f32) := by
  have inferred : op.infer [.ofType (lhs, .f32), .ofType (rhs, .f32)] = .ok type ↔
      ∃ shape, Shape.broadcast? lhs rhs = some shape ∧ type = (shape, .f32) := by
    rw [Recipe.infer_binary binary.binary, Inference.arithmetic, Inference.twoInputs, ok_bind]
    simp only [Node.elementType_ofType, Node.shape_ofType, ne_eq, not_true_eq_false, if_false,
      Shape.broadcast]
    cases Shape.broadcast? lhs rhs <;> simp [eq_comm]
  rw [← inferred, Builder.typeOf, binary.typing, binary_eq binary.binary first second]
  constructor
  · rintro ⟨uses, ran⟩
    obtain ⟨produced, found, rest⟩ := Typing.op_bind_run_eq_ok.1 ran
    obtain ⟨rfl, _⟩ := Typing.of_activate rest
    exact found
  · intro found
    have known : Activation.none ≠ .signBit := by decide
    exact ⟨_, Typing.op_bind_run_eq_ok.2 ⟨type, found, Typing.activate_eq_pure known type _⟩⟩

end Types

/-! ## Lowerings -/

namespace Partition.Combines

variable {partition : Partition} {tensors : TensorContext} {settings : Settings}
  {node : ScheduledNode} {data held output : OperandIndex} {image weights : Tensor}
  (combines : partition.Combines tensors node data held output image weights)

include combines

theorem mem_inputs {index : OperandIndex} : index ∈ node.inputs ↔ index = data ∨ index = held := by
  rcases combines.inputs with inputs | inputs
  · rw [inputs, List.mem_pair]
  · rw [inputs, List.mem_pair, or_comm]

theorem admitted (checked : Support.check node.op node.inputs node.options tensors = .ok ()) :
    (Support.Admitted tensors data image ∧ image.tensorType = .float32) ∧
      Support.Admitted tensors held weights ∧ weights.tensorType = .float32 := by
  obtain ⟨recipe, op, binary, _⟩ := combines.arithmetic.binary
  obtain ⟨_, _, _, each⟩ := binary.accepted checked
  obtain ⟨tensor, admitted, float⟩ := each data (combines.mem_inputs.2 (.inl rfl))
  obtain ⟨tensor', admitted', float'⟩ := each held (combines.mem_inputs.2 (.inr rfl))
  cases admitted.unique combines.fed.known
  cases admitted'.unique combines.known
  exact ⟨⟨admitted, float⟩, admitted', float'⟩

/-- The image stands in the engine's layout, and the weights in the host's. -/
theorem typeOf_iff (checked : Support.check node.op node.inputs node.options tensors = .ok ())
    {recipe : Recipe} {op : Op} (binary : node.Binary recipe op .none) {builder : Builder}
    (supplied : Supplied partition tensors node.inputs builder) {type : OutputType} :
    (∃ uses, builder.typeOf tensors node recipe = .ok (type, uses)) ↔
      ∃ shape, Shape.broadcast? (Layout.engineShape image.hostShape) weights.hostShape = some shape ∧
        type = (shape, .f32) := by
  obtain ⟨⟨admitted, float⟩, admitted', float'⟩ := combines.admitted checked
  have fed : ∀ position, node.inputs[position]? = some data →
      Scope.Data ⟨builder.registry, tensors⟩ builder.graph node.inputs position
        (Layout.engineShape image.hostShape, .f32) := by
    intro position here
    obtain ⟨elementType, element, reads⟩ := supplied.data here admitted combines.fed
    rw [float] at element
    cases element
    exact reads
  have kept : ∀ position, node.inputs[position]? = some held →
      Scope.Data ⟨builder.registry, tensors⟩ builder.graph node.inputs position
        (weights.hostShape, .f32) := by
    intro position here
    obtain ⟨id, payload, elementType, _, element, reads⟩ :=
      supplied.weights here admitted' combines.kept
    rw [float'] at element
    cases element
    exact ⟨_, reads, rfl⟩
  rcases combines.inputs with inputs | inputs
  · exact binary.typeOf_iff (fed 0 (by rw [inputs]; rfl)) (kept 1 (by rw [inputs]; rfl))
  · rw [Shape.broadcast?_comm]
    exact binary.typeOf_iff (kept 0 (by rw [inputs]; rfl)) (fed 1 (by rw [inputs]; rfl))

theorem ready (checked : Support.check node.op node.inputs node.options tensors = .ok ())
    (valid : 0 ≤ node.id) (outputs : ∀ index ∈ partition.outputs, index = output ∨ index ∈ node.inputs) :
    partition.Ready tensors node := by
  obtain ⟨⟨admitted, float⟩, admitted', float'⟩ := combines.admitted checked
  have provided : ∀ index ∈ node.inputs, Provided partition tensors index := by
    intro index member
    rcases combines.mem_inputs.1 member with rfl | rfl
    · exact .inl combines.fed.member
    · exact .inr ⟨weights, combines.known, combines.kept⟩
  refine ⟨valid, ?_, ?_⟩
  · intro index member
    rcases combines.mem_inputs.1 member with rfl | rfl
    · have element : Layout.elementType image.tensorType = .ok .f32 := by
        rw [float]
        rfl
      have typed : Builder.inputType image index = .ok (.f32, image.hostShape) :=
        Builder.inputType_eq_ok.2 ⟨admitted.valid, admitted.given, Nat.le_of_eq combines.rank,
          element, admitted.shape⟩
      exact (obtains_input admitted combines.fed.mutable combines.fed.member).2 ⟨_, typed⟩
    · have element : Layout.elementType weights.tensorType = .ok .f32 := by
        rw [float']
        rfl
      obtain ⟨payload, stored, sized⟩ := combines.sized
      have room : (Shape.elementCount? weights.hostShape).bind ElementType.f32.byteLength? =
          some payload.length := by
        rw [← sized, Tensor.byteSize?, float']
        rfl
      exact (obtains_weights combines.known combines.kept).2 ⟨.f32, weights.hostShape, payload,
        Builder.constantContent_of_admitted admitted' stored element sized, room⟩
  · intro index declared
    refine (outputs index declared).imp (fun same => ?_) fun member => ⟨member, provided index member⟩
    rw [same, combines.lone.written]

theorem low (checked : Support.check node.op node.inputs node.options tensors = .ok ()) :
    weights.hostShape.length ≤ 4 := by
  obtain ⟨recipe, op, binary, _⟩ := combines.arithmetic.binary
  have ruled : Support.rule? node.op node.inputs.length = some Support.binaryRule := binary.ruled _
  have allowed : weights.rank ∈ Support.upToFour := by
    rcases combines.inputs with inputs | inputs
    · have here : node.inputs[1]? = some held := by rw [inputs]; rfl
      obtain ⟨_, _, ranked⟩ := Support.ranked_of_known checked ruled here combines.known
      exact ranked _ rfl
    · have here : node.inputs[0]? = some held := by rw [inputs]; rfl
      obtain ⟨_, _, ranked⟩ := Support.ranked_of_known checked ruled here combines.known
      exact ranked _ rfl
  have small : ∀ rank ∈ Support.upToFour, rank ≤ 4 := by decide
  rw [Tensor.hostShape, List.length_map]
  exact small weights.rank allowed

theorem accepted (checked : Support.check node.op node.inputs node.options tensors = .ok ()) :
    node.Accepted tensors := by
  obtain ⟨recipe, op, binary, plain⟩ := combines.arithmetic.binary
  have ruled : Support.rule? node.op node.inputs.length = some Support.binaryRule := binary.ruled _
  exact accepted_of_ranked checked ruled plain

/-- What the engine broadcasts is the image and the weights with their second axis for the channels. -/
theorem broadcast?_eq (checked : Support.check node.op node.inputs node.options tensors = .ok ()) :
    Shape.broadcast? (Layout.engineShape image.hostShape) weights.hostShape =
      (Host.broadcast? image.hostShape (Shape.padLeft 4 weights.hostShape).channelsLast).map
        Shape.channelsFirst := by
  have rank : image.hostShape.length = 4 := by
    rw [Tensor.hostShape, List.length_map]
    exact combines.rank
  exact Layout.broadcast?_unturned rank (combines.low checked)

theorem of_lower {lowered : LoweredPartition} (ran : partition.lower tensors settings = .ok lowered) :
    ∃ shape, lowered.Returns output shape ∧
      Host.broadcast? image.hostShape (Shape.padLeft 4 weights.hostShape).channelsLast =
        some shape := by
  obtain ⟨recipe, op, binary, _⟩ := combines.arithmetic.binary
  have checked := combines.lone.checked_of_lower ran
  obtain ⟨_, between, type, uses, supplied, told, returns⟩ :=
    combines.lone.of_lower (combines.accepted checked) binary.known ran
  obtain ⟨joined, found, rfl⟩ := (combines.typeOf_iff checked binary supplied).1 ⟨uses, told⟩
  rw [combines.broadcast?_eq checked] at found
  obtain ⟨hosted, known, rfl⟩ := Option.map_eq_some_iff.1 found
  rw [Shape.channelsLast_channelsFirst] at returns
  exact ⟨hosted, returns, known⟩

/-- The lowering gives a shape where the weights are broadcast to it with their second axis for the
channels. -/
theorem lower_iff (checked : Support.check node.op node.inputs node.options tensors = .ok ())
    (valid : 0 ≤ node.id) (outputs : ∀ index ∈ partition.outputs, index = output ∨ index ∈ node.inputs)
    {shape : Shape} :
    (∃ lowered, partition.lower tensors settings = .ok lowered ∧ lowered.Returns output shape) ↔
      Host.broadcast? image.hostShape (Shape.padLeft 4 weights.hostShape).channelsLast = some shape := by
  constructor
  · rintro ⟨lowered, ran, returns⟩
    obtain ⟨hosted, returns', known⟩ := combines.of_lower ran
    rw [known, (returns'.iff_eq (combines.lone.declared_of_lower ran)).1 returns]
  · intro known
    obtain ⟨recipe, op, binary, _⟩ := combines.arithmetic.binary
    have told : ∀ between, Supplied partition tensors node.inputs between →
        ∃ type uses, between.typeOf tensors node recipe = .ok (type, uses) := by
      intro between supplied
      refine ⟨_, (combines.typeOf_iff checked binary supplied).2 ⟨shape.channelsFirst, ?_, rfl⟩⟩
      rw [combines.broadcast?_eq checked, known]
      rfl
    obtain ⟨lowered, ran⟩ := combines.lone.lower_ok (combines.accepted checked) binary.known
      (combines.ready checked valid outputs) told
    obtain ⟨hosted, returns, known'⟩ := combines.of_lower ran
    rw [known] at known'
    cases known'
    exact ⟨lowered, ran, returns⟩

end Partition.Combines

/-- A sum or a product of an image and weights that the host can broadcast is lowered to the host's shape
exactly when the weights, with ones in front and their second axis for the channels, are broadcast to that
shape too. -/
theorem arithmetic_with_weights {partition : Partition} {tensors : TensorContext} {settings : Settings}
    {node : ScheduledNode} {data held output : OperandIndex} {image weights : Tensor} {shape : Shape}
    (combines : partition.Combines tensors node data held output image weights)
    (checked : Support.check node.op node.inputs node.options tensors = .ok ())
    (valid : 0 ≤ node.id) (outputs : ∀ index ∈ partition.outputs, index = output ∨ index ∈ node.inputs)
    (hosted : Host.broadcast? image.hostShape weights.hostShape = some shape) :
    (∃ lowered, partition.lower tensors settings = .ok lowered ∧ lowered.Returns output shape) ↔
      Host.broadcast? image.hostShape (Shape.padLeft 4 weights.hostShape).channelsLast =
        Host.broadcast? image.hostShape weights.hostShape := by
  rw [hosted]
  exact combines.lower_iff checked valid outputs

/-! ### A sum of an image and one value for each channel -/

namespace WeightedExample

def image (channels : Int32) : Tensor where
  tensorType := .float32
  dims := [1, 2, 3, channels]

def shift (channels : Int32) : Tensor where
  tensorType := .float32
  dims := [channels]
  allocation := .mmapRo
  data := some (List.replicate (4 * channels.toInt.toNat) 0)

def tensors (channels : Int32) : TensorContext :=
  .ofList [(0, image channels), (1, shift channels)]

def node : ScheduledNode where
  id := 0
  op := .builtin .add
  inputs := [0, 1]
  outputs := [2]
  options := .add ⟨.none⟩

def partition : Partition where
  inputs := [0]
  outputs := [2]
  nodes := [node]

theorem combines {channels : Int32}
    (sized : (shift channels).byteSize? = some (4 * channels.toInt.toNat)) :
    partition.Combines (tensors channels) node 0 1 2 (image channels) (shift channels) where
  lone := ⟨rfl, rfl, List.mem_singleton.2 rfl⟩
  arithmetic := .inl ⟨rfl, rfl⟩
  inputs := .inl rfl
  fed := ⟨rfl, Allocation.noConfusion, List.mem_singleton.2 rfl⟩
  rank := rfl
  known := rfl
  kept := rfl
  sized := ⟨_, rfl, by rw [sized, List.length_replicate]⟩

end WeightedExample

open WeightedExample in
/-- As many channels as columns: the weights meet the columns, which does not show. -/
theorem arithmetic_with_weights_square :
    Host.broadcast? (image 3).hostShape (shift 3).hostShape = some [1, 2, 3, 3] ∧
      ∃ lowered, partition.lower (tensors 3) {} = .ok lowered ∧ lowered.Returns 2 [1, 2, 3, 3] := by
  have checked : Support.check node.op node.inputs node.options (tensors 3) = .ok () := by
    decide +kernel
  have outputs : ∀ index ∈ partition.outputs, index = 2 ∨ index ∈ node.inputs := by
    intro index declared
    exact .inl (List.mem_singleton.1 declared)
  have hosted : Host.broadcast? (image 3).hostShape (shift 3).hostShape = some [1, 2, 3, 3] := by
    decide
  exact ⟨hosted, (arithmetic_with_weights (combines (by decide)) checked (by decide) outputs hosted).2
    (by decide)⟩

open WeightedExample in
/-- Four channels and three columns: the host broadcasts one value for each channel, and the lowering does
not. -/
theorem weights_meet_columns :
    partition.Combines (tensors 4) node 0 1 2 (image 4) (shift 4) ∧
      Support.check node.op node.inputs node.options (tensors 4) = .ok () ∧
      Host.broadcast? (image 4).hostShape (shift 4).hostShape = some [1, 2, 3, 4] ∧
      ¬∃ lowered, partition.lower (tensors 4) {} = .ok lowered := by
  refine ⟨combines (by decide), by decide +kernel, by decide, ?_⟩
  have failed : (partition.lower (tensors 4) {}).isOk = false := by decide +kernel
  rintro ⟨lowered, ran⟩
  rw [ran] at failed
  cases failed

end PartitionLowering
