import PartitionLowering.Proofs.Networks.Counterpart

/-!
The values of weights do not steer a lowering.  Two contexts that differ in payloads of weight types, and in
tensors that no node reads, lead to the same failure or to models that are equal but for those payloads
(`lower_ignores_weight_values`).
-/

set_option autoImplicit false

namespace PartitionLowering

/-- The types of tensors whose payloads are carried along unread. -/
def weightTypes : List TensorType :=
  [.float32, .float16, .float64, .bool, .int4]

def weightElements : List ElementType :=
  [.f32, .f16, .f64, .boolean, .i4]

theorem hiddenElements_weightTypes : hiddenElements weightTypes = weightElements :=
  rfl

theorem unread_weightTypes : Unread (hiddenElements weightTypes) := by
  rw [hiddenElements_weightTypes, Unread]
  decide

theorem lawful_id : Renaming.Lawful id :=
  ⟨Function.injective_id, fun _ => Iff.rfl⟩

theorem Partition.rename_id (partition : Partition) : partition.rename id = partition := by
  have nodes : ScheduledNode.rename id = id := by
    funext node
    rw [ScheduledNode.rename, List.map_id, List.map_id]
    rfl
  rw [Partition.rename, List.map_id, List.map_id, nodes, List.map_id]

/-- Payloads of weights, and tensors that no node reads, leave no trace in a lowering but the payloads of
the constants that hold them: both contexts give the same failure or models with one dump. -/
theorem lower_ignores_weight_values (partition : Partition) (tensors tensors' : TensorContext)
    (settings : Settings)
    (agree : ∀ node ∈ partition.nodes, ∀ index ∈ node.inputs,
      Option.Rel (Tensor.SameBut weightTypes) (tensors.get? index) (tensors'.get? index)) :
    (∃ failure, partition.lower tensors settings = .error failure ∧
        partition.lower tensors' settings = .error failure) ∨
      ∃ lowered lowered', partition.lower tensors settings = .ok lowered ∧
        partition.lower tensors' settings = .ok lowered' ∧
        lowered.computeInputs = lowered'.computeInputs ∧ lowered.outputs = lowered'.outputs ∧
        lowered.device = lowered'.device ∧
        lowered.model.parameters = lowered'.model.parameters ∧
        lowered.model.results = lowered'.model.results ∧
        lowered.model.graph.SameBut weightElements lowered'.model.graph ∧
        lowered.model.dump = lowered'.model.dump := by
  have alike := lower_counterpart lawful_id unread_weightTypes agree settings
  rw [partition.rename_id] at alike
  rcases alike with ⟨lowered, lowered', success, success', counterpart⟩ | ⟨failure, failed, failed'⟩
  · right
    obtain ⟨graphs, parameters, results, computeInputs, outputs, device⟩ := counterpart
    rw [List.map_id] at computeInputs outputs
    exact ⟨lowered, lowered', success, success', computeInputs.symm, outputs.symm, device, parameters,
      results, graphs, Model.dump_eq_of_sameBut graphs parameters results⟩
  · left
    rw [failure.rename_id] at failed'
    exact ⟨failure, failed, failed'⟩

namespace WeightValuesExample

def image : Tensor where
  tensorType := .float32
  dims := [1, 2, 3, 2]

def shift (payload : List UInt8) : Tensor where
  tensorType := .float32
  dims := [1]
  allocation := .mmapRo
  data := some payload

def tensors (payload : List UInt8) : TensorContext :=
  .ofList [(0, image), (1, shift payload)]

def partition : Partition where
  inputs := [0]
  outputs := [2]
  nodes := [{
    id := 0
    op := .builtin .add
    inputs := [0, 1]
    outputs := [2]
    options := .add ⟨.none⟩ }]

end WeightValuesExample

open WeightValuesExample in
theorem lower_ignores_weight_values_shift :
    tensors [0, 0, 128, 63] ≠ tensors [0, 0, 0, 64] ∧
      ∃ lowered lowered', partition.lower (tensors [0, 0, 128, 63]) {} = .ok lowered ∧
        partition.lower (tensors [0, 0, 0, 64]) {} = .ok lowered' ∧
        lowered.model.dump = lowered'.model.dump := by
  have agree : ∀ node ∈ partition.nodes, ∀ index ∈ node.inputs,
      Option.Rel (Tensor.SameBut weightTypes) ((tensors [0, 0, 128, 63]).get? index)
        ((tensors [0, 0, 0, 64]).get? index) := by
    intro node member index read
    cases List.mem_singleton.1 member
    rcases List.mem_pair.1 read with rfl | rfl
    · exact .some ⟨rfl, rfl, rfl, .none⟩
    · exact .some ⟨rfl, rfl, rfl, .some ⟨rfl, by decide⟩⟩
  refine ⟨by decide, ?_⟩
  have succeeds : (partition.lower (tensors [0, 0, 128, 63]) {}).isOk = true := by decide +kernel
  rcases lower_ignores_weight_values partition _ _ {} agree with
    ⟨failure, failed, _⟩ | ⟨lowered, lowered', success, success', _, _, _, _, _, _, dumps⟩
  · rw [failed] at succeeds
    cases succeeds
  · exact ⟨lowered, lowered', success, success', dumps⟩

end PartitionLowering
