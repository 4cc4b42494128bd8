import PartitionLowering.Proofs.Lowering.Images
import PartitionLowering.Proofs.Networks.SingleNode

/-!
Concatenations of two images that the host feeds.  They are joined along their channels, and the axis that
the options name is not looked at.  Main statement: `concatenation_joins_channels`, by which the result is the
one that the options ask for exactly where they name the last axis.
-/

set_option autoImplicit false

namespace PartitionLowering

namespace Host

def AgreeOutside (axis : Nat) (lhs rhs : Shape) : Prop :=
  ∀ other, other ≠ axis → lhs[other]? = rhs[other]?

/-- A shape made longer along an axis by the extent that another one has there. -/
def joinAlong (axis : Nat) (lhs rhs : Shape) : Shape :=
  lhs.modify axis (· + rhs.getD axis 0)

/-- Images whose channels can be joined agree on all the other axes. -/
theorem of_joinChannels? {lhs rhs joined : Shape} (rank : lhs.length = 4) (rank' : rhs.length = 4)
    (found : joinChannels? [lhs, rhs] = some joined) :
    AgreeOutside 3 lhs rhs ∧ joined = joinAlong 3 lhs rhs := by
  obtain ⟨batch, height, width, channels, rfl⟩ := Shape.exists_image rank
  obtain ⟨batch', height', width', channels', rfl⟩ := Shape.exists_image rank'
  by_cases same : batch = batch' ∧ height = height' ∧ width = width'
  · simp only [joinChannels?, Option.bind_eq_bind, Option.bind_some, if_pos same,
      Option.some.injEq] at found
    obtain ⟨rfl, rfl, rfl⟩ := same
    refine ⟨fun other apart => ?_, found.symm⟩
    rcases other with _ | _ | _ | _ | other
    · rfl
    · rfl
    · rfl
    · exact absurd rfl apart
    · rfl
  · simp [joinChannels?, same] at found

/-- Joining along another axis leaves the last extent as it is. -/
theorem joinAlong_ne {axis : Nat} {lhs rhs : Shape} (rank : lhs.length = 4) (rank' : rhs.length = 4)
    (positive : ∀ extent ∈ rhs, 0 < extent) (apart : axis ≠ 3) :
    joinAlong 3 lhs rhs ≠ joinAlong axis lhs rhs := by
  obtain ⟨batch, height, width, channels, rfl⟩ := Shape.exists_image rank
  obtain ⟨batch', height', width', channels', rfl⟩ := Shape.exists_image rank'
  have some_channels : 0 < channels' := positive channels' (by simp)
  intro same
  have last := congrArg (·[3]?) same
  simp [joinAlong, apart] at last
  omega

end Host

/-- A concatenation of two images that the host feeds, along an axis that its options name, without an
activation. -/
structure Partition.Joins (partition : Partition) (tensors : TensorContext) (node : ScheduledNode)
    (left right output : OperandIndex) (first second : Tensor) (axis : Nat) : Prop where
  lone : partition.Lone node output
  op : node.op = .builtin .concatenation
  options : node.options = .concatenation ⟨.ofNat axis, .none⟩
  inputs : node.inputs = [left, right]
  fed : FedOperand partition tensors left first
  fed' : FedOperand partition tensors right second
  low : axis ≤ 3

namespace Partition.Joins

variable {partition : Partition} {tensors : TensorContext} {settings : Settings}
  {node : ScheduledNode} {left right output : OperandIndex} {first second : Tensor} {axis : Nat}
  (joins : partition.Joins tensors node left right output first second axis)

include joins

theorem accepted (checked : Support.check node.op node.inputs node.options tensors = .ok ()) :
    node.Accepted tensors ∧ (Support.Admitted tensors left first ∧ first.hostShape.length = 4) ∧
      Support.Admitted tensors right second ∧ second.hostShape.length = 4 := by
  have ruled : Support.rule? node.op node.inputs.length =
      some ⟨[[.float32], [.float32]], some [[4], [4]]⟩ := by
    rw [joins.op]
    rfl
  have plain : node.op ≠ .builtin .transposeConv := by
    rw [joins.op]
    decide
  have here : node.inputs[0]? = some left := by rw [joins.inputs]; rfl
  have there : node.inputs[1]? = some right := by rw [joins.inputs]; rfl
  obtain ⟨admitted, _, ranked⟩ := Support.ranked_of_known checked ruled here joins.fed.known
  obtain ⟨admitted', _, ranked'⟩ := Support.ranked_of_known checked ruled there joins.fed'.known
  have rank : first.rank = 4 := List.mem_singleton.1 (ranked _ rfl)
  have rank' : second.rank = 4 := List.mem_singleton.1 (ranked' _ rfl)
  exact ⟨accepted_of_ranked checked ruled plain, ⟨admitted, (List.length_map _).trans rank⟩, admitted',
    (List.length_map _).trans rank'⟩

/-- A concatenation that has a type has that of the images joined along their channels. -/
theorem of_typeOf (accepted : node.Accepted tensors) {builder : Builder}
    (supplied : Supplied partition tensors node.inputs builder) {type : OutputType}
    {uses : List FilterUse} (told : builder.typeOf tensors node .concatenation = .ok (type, uses)) :
    Host.AgreeOutside 3 first.hostShape second.hostShape ∧
      type.1.channelsLast = Host.joinAlong 3 first.hostShape second.hostShape := by
  obtain ⟨_, ⟨admitted, rank⟩, admitted', rank'⟩ := joins.accepted accepted.checked
  have here : node.inputs[0]? = some left := by rw [joins.inputs]; rfl
  have there : node.inputs[1]? = some right := by rw [joins.inputs]; rfl
  obtain ⟨elementType, _, data⟩ := supplied.data here admitted joins.fed
  obtain ⟨elementType', _, data'⟩ := supplied.data there admitted' joins.fed'
  obtain ⟨batch, height, width, channels, shape⟩ := Shape.exists_image rank
  obtain ⟨batch', height', width', channels', shape'⟩ := Shape.exists_image rank'
  rw [shape] at data rank ⊢
  rw [shape'] at data' rank' ⊢
  have typing : ∀ scope graph, Recipe.concatenation.typing scope graph node.inputs node.options =
      Typing.concatenation scope graph node.inputs (.concatenation ⟨.ofNat axis, .none⟩) := by
    intro scope graph
    rw [joins.options]
    rfl
  rw [Builder.typeOf, typing] at told
  obtain ⟨_, _, _, _, _, joined, rfl⟩ := of_concatenation joins.inputs data data' told
  exact Host.of_joinChannels? rank rank' joined

end Partition.Joins

/-- A concatenation that is lowered joins two images along their channels, which all their other axes agree
on, whatever axis the options name.  So it gives the result that the options ask for exactly where they name
the channels. -/
theorem concatenation_joins_channels {partition : Partition} {tensors : TensorContext}
    {settings : Settings} {node : ScheduledNode} {left right output : OperandIndex}
    {first second : Tensor} {axis : Nat} {lowered : LoweredPartition}
    (joins : partition.Joins tensors node left right output first second axis)
    (ran : partition.lower tensors settings = .ok lowered) :
    Host.AgreeOutside 3 first.hostShape second.hostShape ∧
      lowered.Returns output (Host.joinAlong 3 first.hostShape second.hostShape) ∧
      (Host.AgreeOutside axis first.hostShape second.hostShape ∧
          lowered.Returns output (Host.joinAlong axis first.hostShape second.hostShape) ↔
        axis = 3) := by
  obtain ⟨accepted, ⟨_, rank⟩, admitted', rank'⟩ :=
    joins.accepted (joins.lone.checked_of_lower ran)
  have known : Recipe.ofOpCode node.op = .ok .concatenation := by
    rw [joins.op]
    rfl
  obtain ⟨_, between, type, uses, supplied, told, returns⟩ := joins.lone.of_lower accepted known ran
  obtain ⟨agree, joined⟩ := joins.of_typeOf accepted supplied told
  rw [joined] at returns
  refine ⟨agree, returns, ?_, ?_⟩
  · rintro ⟨_, returns'⟩
    by_contra apart
    have same := (returns.iff_eq (joins.lone.declared_of_lower ran)).1 returns'
    have positive : ∀ extent ∈ second.hostShape, 0 < extent := by
      intro extent member
      obtain ⟨dim, held, rfl⟩ := List.mem_map.1 member
      have above := Layout.toInt_pos (admitted'.positive dim held)
      omega
    exact Host.joinAlong_ne rank rank' positive apart same
  · rintro rfl
    exact ⟨agree, returns⟩

/-! ### Two images of one shape -/

namespace JoinExample

def image (channels : Int32) : Tensor where
  tensorType := .float32
  dims := [1, 2, 3, channels]

def tensors (channels : Int32) : TensorContext :=
  .ofList [(0, image channels), (1, image 4)]

def node (axis : Nat) : ScheduledNode where
  id := 0
  op := .builtin .concatenation
  inputs := [0, 1]
  outputs := [2]
  options := .concatenation ⟨.ofNat axis, .none⟩

def partition (axis : Nat) : Partition where
  inputs := [0, 1]
  outputs := [2]
  nodes := [node axis]

theorem joins (channels : Int32) {axis : Nat} (low : axis ≤ 3) :
    (partition axis).Joins (tensors channels) (node axis) 0 1 2 (image channels) (image 4) axis where
  lone := ⟨rfl, rfl, List.mem_singleton.2 rfl⟩
  op := rfl
  options := rfl
  inputs := rfl
  fed := ⟨rfl, Allocation.noConfusion, List.mem_pair.2 (.inl rfl)⟩
  fed' := ⟨rfl, Allocation.noConfusion, List.mem_pair.2 (.inr rfl)⟩
  low := low

end JoinExample

open JoinExample in
/-- The options name the height, on which the images agree, and the images are joined along their channels. -/
theorem concatenation_joins_channels_height :
    (partition 1).Joins (tensors 5) (node 1) 0 1 2 (image 5) (image 4) 1 ∧
      ∃ lowered, (partition 1).lower (tensors 5) {} = .ok lowered ∧ lowered.Returns 2 [1, 2, 3, 9] := by
  have joins := joins 5 (show 1 ≤ 3 by decide)
  have succeeds : ((partition 1).lower (tensors 5) {}).isOk = true := by decide +kernel
  obtain ⟨lowered, ran⟩ := exists_of_isOk succeeds
  obtain ⟨_, returns, _⟩ := concatenation_joins_channels joins ran
  exact ⟨joins, lowered, ran, returns⟩

open JoinExample in
/-- Two images of one shape, to be joined along their batches: the result has one batch and eight channels. -/
theorem batches_stay_apart :
    (partition 0).Joins (tensors 4) (node 0) 0 1 2 (image 4) (image 4) 0 ∧
      ∃ lowered, (partition 0).lower (tensors 4) {} = .ok lowered ∧
        lowered.resultShape? 0 = some [1, 2, 3, 8] ∧
        ¬lowered.Returns 2 (Host.joinAlong 0 (image 4).hostShape (image 4).hostShape) := by
  refine ⟨joins 4 (by decide), ?_⟩
  have found : ((partition 0).lower (tensors 4) {}).toOption.bind
      (LoweredPartition.resultShape? · 0) = some [1, 2, 3, 8] := by decide +kernel
  obtain ⟨lowered, ran, shown, only⟩ := exists_of_resultShape? found rfl
  exact ⟨lowered, ran, shown, fun returns => absurd (only _ returns) (by decide)⟩

end PartitionLowering
