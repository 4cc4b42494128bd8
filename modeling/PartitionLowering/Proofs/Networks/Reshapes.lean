import PartitionLowering.Proofs.Engine.Patterns
import PartitionLowering.Proofs.Networks.SingleNode

/-!
Reshapes of an operand that the host feeds, by a pattern among the weights.  The result has the shape that
the pattern requests, except that a result of rank four is taken for an engine image and turned
(`reshape_of_weights`).
-/

set_option autoImplicit false

namespace PartitionLowering

/-- A reshape of an operand that the host feeds, by a pattern of weights. -/
structure Partition.Reshapes (partition : Partition) (tensors : TensorContext) (node : ScheduledNode)
    (data asked output : OperandIndex) (source holder : Tensor) : Prop where
  lone : partition.Lone node output
  op : node.op = .builtin .reshape
  inputs : node.inputs = [data, asked]
  fed : FedOperand partition tensors data source
  known : tensors.get? asked = some holder
  kept : holder.allocation = .mmapRo

/-- The engine reads the integers of a payload of 32-bit integers as the host does. -/
theorem integers?_of_int32 {tensor : Tensor} {data : List UInt8} {id : NodeId} {shape : Shape}
    (typed : tensor.tensorType = .int32) (held : tensor.data = some data) :
    (Node.mk id (.constant data) [] shape .i32).integers? = Host.integers? tensor := by
  rw [Host.integers?, held, typed]
  rfl

namespace Partition.Reshapes

variable {partition : Partition} {tensors : TensorContext} {settings : Settings}
  {node : ScheduledNode} {data asked output : OperandIndex} {source holder : Tensor}
  (reshapes : partition.Reshapes tensors node data asked output source holder)

include reshapes

theorem accepted (checked : Support.check node.op node.inputs node.options tensors = .ok ()) :
    node.Accepted tensors ∧ Support.Admitted tensors data source ∧
      Support.Admitted tensors asked holder ∧ holder.tensorType = .int32 := by
  have ruled : Support.rule? node.op node.inputs.length =
      some ⟨[[.float32], [.int32]], some [Support.upToFour, [1]]⟩ := by
    rw [reshapes.op]
    rfl
  have first : node.inputs[0]? = some data := by rw [reshapes.inputs]; rfl
  have second : node.inputs[1]? = some asked := by rw [reshapes.inputs]; rfl
  have plain : node.op ≠ .builtin .transposeConv := by
    rw [reshapes.op]
    decide
  obtain ⟨admitted, _⟩ := Support.ranked_of_known checked ruled first reshapes.fed.known
  obtain ⟨admitted', typed, _⟩ := Support.ranked_of_known checked ruled second reshapes.known
  exact ⟨accepted_of_ranked checked ruled plain, admitted, admitted',
    List.mem_singleton.1 (typed _ rfl)⟩

/-- A reshape that has a type has the shape that the pattern requests. -/
theorem of_typeOf (accepted : node.Accepted tensors) {pattern : List Int}
    (values : Host.integers? holder = some pattern) {builder : Builder}
    (supplied : Supplied partition tensors node.inputs builder) {type : OutputType}
    {uses : List FilterUse} (told : builder.typeOf tensors node .reshape = .ok (type, uses)) :
    type.1 = Host.requested source.hostShape.prod pattern := by
  obtain ⟨_, admitted, admitted', integers⟩ := reshapes.accepted accepted.checked
  have first : node.inputs[0]? = some data := by rw [reshapes.inputs]; rfl
  have second : node.inputs[1]? = some asked := by rw [reshapes.inputs]; rfl
  obtain ⟨elementType, _, held, reads, typed⟩ := supplied.data first admitted reshapes.fed
  obtain ⟨id, payload, element, stored, element_eq, reads'⟩ :=
    supplied.weights second admitted' reshapes.kept
  rw [integers] at element_eq
  cases element_eq
  have read : (Node.mk id (.constant payload) [] holder.hostShape .i32).integers? = some pattern := by
    rw [integers?_of_int32 integers stored, values]
  have typing : ∀ scope graph, Recipe.reshape.typing scope graph node.inputs node.options =
      Typing.reshape scope graph node.inputs node.options := fun _ _ => rfl
  rw [Builder.typeOf, typing, Typing.reshape, reads.input, lift_ok_bind, reads'.optionalInput,
    lift_ok_bind] at told
  dsimp only at told
  rw [pure_bind, op_data, typed] at told
  obtain ⟨inferred, _⟩ := (Typing.plain_op_run_eq_ok rfl).1 told
  simp only [Op.infer, Inference.reshape, Inference.twoInputs, Inference.integersAt, read, ok_bind,
    bind_eq_ok, Node.shape_ofType, pure_eq_ok, Except.ok.injEq] at inferred
  obtain ⟨shape, reshaped, rfl⟩ := inferred
  rw [Shape.reshape_eq_requested reshaped, Shape.prod_engineShape]

end Partition.Reshapes

/-- A reshape that is lowered gives the shape that its pattern requests, with the second extent moved to the
end where there are four.  So it gives the requested shape itself unless the pattern has four entries and asks
for an image whose height, width and channels differ. -/
theorem reshape_of_weights {partition : Partition} {tensors : TensorContext} {settings : Settings}
    {node : ScheduledNode} {data asked output : OperandIndex} {source holder : Tensor}
    {pattern : List Int} {lowered : LoweredPartition}
    (reshapes : partition.Reshapes tensors node data asked output source holder)
    (values : Host.integers? holder = some pattern)
    (ran : partition.lower tensors settings = .ok lowered) :
    lowered.Returns output (Host.requested source.hostShape.prod pattern).channelsLast ∧
      (lowered.Returns output (Host.requested source.hostShape.prod pattern) ↔
        (pattern.length = 4 → ∃ batch extent,
          Host.requested source.hostShape.prod pattern = [batch, extent, extent, extent])) := by
  obtain ⟨accepted, _⟩ := reshapes.accepted (reshapes.lone.checked_of_lower ran)
  have known : Recipe.ofOpCode node.op = .ok .reshape := by
    rw [reshapes.op]
    rfl
  obtain ⟨_, between, type, uses, supplied, told, returns⟩ :=
    reshapes.lone.of_lower accepted known ran
  rw [reshapes.of_typeOf accepted values supplied told] at returns
  refine ⟨returns, ?_⟩
  rw [returns.iff_eq (reshapes.lone.declared_of_lower ran), Shape.channelsLast_eq_self_iff,
    Host.length_requested]

/-! ### A matrix reshaped by a pattern -/

namespace ReshapeExample

def matrix : Tensor where
  tensorType := .float32
  dims := [2, 60]

def pattern (entries : List Int32) : Tensor :=
  .constantInt32 [.ofNat entries.length] entries

def tensors (entries : List Int32) : TensorContext :=
  .ofList [(0, matrix), (1, pattern entries)]

def node : ScheduledNode where
  id := 0
  op := .builtin .reshape
  inputs := [0, 1]
  outputs := [2]

def partition : Partition where
  inputs := [0]
  outputs := [2]
  nodes := [node]

theorem reshapes (entries : List Int32) :
    partition.Reshapes (tensors entries) node 0 1 2 matrix (pattern entries) where
  lone := ⟨rfl, rfl, List.mem_singleton.2 rfl⟩
  op := rfl
  inputs := rfl
  fed := ⟨rfl, Allocation.noConfusion, List.mem_singleton.2 rfl⟩
  known := rfl
  kept := rfl

end ReshapeExample

open ReshapeExample in
theorem reshape_of_weights_open :
    Host.integers? (pattern [4, -1, 3]) = some [4, -1, 3] ∧
      ∃ lowered, partition.lower (tensors [4, -1, 3]) {} = .ok lowered ∧
        lowered.Returns 2 [4, 10, 3] := by
  have values : Host.integers? (pattern [4, -1, 3]) = some [4, -1, 3] := by decide
  have succeeds : (partition.lower (tensors [4, -1, 3]) {}).isOk = true := by decide +kernel
  obtain ⟨lowered, ran⟩ := exists_of_isOk succeeds
  obtain ⟨returns, _⟩ := reshape_of_weights (reshapes [4, -1, 3]) values ran
  exact ⟨values, lowered, ran, returns⟩

open ReshapeExample in
/-- A pattern of four entries: the result has the second of them at the end. -/
theorem reshape_turned :
    partition.Reshapes (tensors [2, 3, 4, 5]) node 0 1 2 matrix (pattern [2, 3, 4, 5]) ∧
      Host.integers? (pattern [2, 3, 4, 5]) = some [2, 3, 4, 5] ∧
      ∃ lowered, partition.lower (tensors [2, 3, 4, 5]) {} = .ok lowered ∧
        lowered.resultShape? 0 = some [2, 4, 5, 3] ∧
        ¬lowered.Returns 2 (Host.requested matrix.hostShape.prod [2, 3, 4, 5]) := by
  refine ⟨reshapes _, by decide, ?_⟩
  have found : (partition.lower (tensors [2, 3, 4, 5]) {}).toOption.bind
      (LoweredPartition.resultShape? · 0) = some [2, 4, 5, 3] := by decide +kernel
  obtain ⟨lowered, ran, shown, only⟩ := exists_of_resultShape? found rfl
  exact ⟨lowered, ran, shown, fun returns => absurd (only _ returns) (by decide)⟩

end PartitionLowering
