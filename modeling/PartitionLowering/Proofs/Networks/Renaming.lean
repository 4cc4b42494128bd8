import Mathlib.Logic.Equiv.Basic
import PartitionLowering.Proofs.Networks.Counterpart

/-!
Operand indices are opaque.  A lowering treats them as keys alone: under other indices, given one to one
and with operands that are left out left out, it comes to the same model or to the same failure
(`lower_rename`).
-/

set_option autoImplicit false

namespace PartitionLowering

namespace OperandMap

variable {α : Type} (names : Renaming)

def rename (map : OperandMap α) : OperandMap α :=
  map.entries.foldr (fun entry renamed => renamed.insert (names entry.1) entry.2) ∅

theorem get?_rename (injective : Function.Injective names) (map : OperandMap α)
    (index : OperandIndex) : (map.rename names).get? (names index) = map.get? index := by
  rw [rename, get?.eq_def map]
  induction map.entries with
  | nil => rfl
  | cons entry rest ih =>
    obtain ⟨key, value⟩ := entry
    rw [List.foldr_cons, find]
    by_cases here : index = key
    · rw [if_pos here, here, get?_insert_self]
    · have apart : names index ≠ names key := fun same => here (injective same)
      rw [if_neg here, get?_insert_of_ne _ _ apart, ih]

end OperandMap

def LoweredPartition.rename (names : Renaming) (lowered : LoweredPartition) : LoweredPartition where
  model := lowered.model
  computeInputs := lowered.computeInputs.map names
  outputs := lowered.outputs.map names
  device := lowered.device

theorem contexts_rename {names : Renaming} (injective : Function.Injective names)
    (tensors : TensorContext) (inputs : List OperandIndex) :
    Contexts [] names tensors (tensors.rename names) inputs := by
  intro index _
  rw [tensors.get?_rename names injective]
  cases tensors.get? index with
  | none => exact .none
  | some tensor =>
    refine .some ⟨rfl, rfl, rfl, ?_⟩
    cases tensor.data with
    | none => exact .none
    | some payload => exact .some ⟨rfl, fun _ => rfl⟩

theorem unread_nil : Unread (hiddenElements []) :=
  nofun

/-- With nothing hidden, a counterpart is the same lowered partition under other indices. -/
theorem LoweredPartition.Counterpart.eq_rename {names : Renaming} {lowered other : LoweredPartition}
    (counterpart : lowered.Counterpart [] names other) : other = lowered.rename names := by
  obtain ⟨graphs, parameters, results, computeInputs, outputs, device⟩ := counterpart
  obtain ⟨⟨graph, _, _⟩, _, _, _⟩ := lowered
  obtain ⟨⟨graph', _, _⟩, _, _, _⟩ := other
  have graph_eq : graph = graph' := Graph.SameBut.eq graphs
  cases graph_eq
  cases parameters
  cases results
  cases computeInputs
  cases outputs
  cases device
  rfl

/-- A lowering under other indices is the lowering with its indices replaced, and fails where that one
fails, naming the same operand under its other index. -/
theorem lower_rename (names : Renaming) (lawful : names.Lawful) (partition : Partition)
    (tensors : TensorContext) (settings : Settings) :
    (partition.rename names).lower (tensors.rename names) settings =
      match partition.lower tensors settings with
      | .ok lowered => .ok (lowered.rename names)
      | .error failure => .error (failure.rename names) := by
  have contexts : ∀ node ∈ partition.nodes,
      Contexts [] names tensors (tensors.rename names) node.inputs :=
    fun node _ => contexts_rename lawful.injective tensors node.inputs
  rcases lower_counterpart lawful unread_nil contexts settings with
    ⟨lowered, other, success, success', counterpart⟩ | ⟨failure, failed, failed'⟩
  · rw [success, success', counterpart.eq_rename]
  · rw [failed, failed']

namespace RenamingExample

/-- Operands 0 and 3 change places. -/
def names : Renaming :=
  Equiv.swap 0 3

theorem lawful : names.Lawful where
  injective := (Equiv.swap 0 3).injective
  sign := by
    intro index
    by_cases first : index = 0
    · subst first
      decide
    · by_cases second : index = 3
      · subst second
        decide
      · rw [names, Equiv.swap_apply_of_ne_of_ne first second]

def image : Tensor where
  tensorType := .float32
  dims := [1, 4, 6, 3]

def tensors : TensorContext :=
  .ofList [(0, image), (1, image)]

/-- A partition that lacks the tensor of operand 3 where it asks for that operand. -/
def partition (second : OperandIndex) : Partition where
  inputs := [0, second]
  outputs := [0]
  nodes := [
    { id := 0, op := .builtin .tanh, inputs := [0], outputs := [3] },
    { id := 1, op := .builtin .relu, inputs := [second], outputs := [0] }]

end RenamingExample

open RenamingExample in
theorem lower_rename_swapped :
    names.Lawful ∧
      (∃ lowered, (partition 1).lower tensors {} = .ok lowered ∧
        ((partition 1).rename names).lower (tensors.rename names) {} = .ok (lowered.rename names)) ∧
      ((partition 3).rename names).lower (tensors.rename names) {} = .error (.missingOperand 0) := by
  refine ⟨lawful, ?_, ?_⟩
  · have same := lower_rename names lawful (partition 1) tensors {}
    have succeeds : ((partition 1).lower tensors {}).isOk = true := by decide +kernel
    obtain ⟨lowered, success⟩ := exists_of_isOk succeeds
    exact ⟨lowered, success, by rw [same, success]⟩
  · have same := lower_rename names lawful (partition 3) tensors {}
    have fails : (partition 3).lower tensors {} = .error (.missingOperand 3) := by rfl
    rw [same, fails]
    rfl

end PartitionLowering
