import PartitionLowering.Lowering.Partition
import PartitionLowering.Proofs.Engine.Payloads
import PartitionLowering.Proofs.Lowering.EmissionAlike
import PartitionLowering.Proofs.Networks.Mirror

/-!
A lowering and its counterpart: the operands go by other indices, and payloads of hidden types hold other
bytes.  `Builder.Counterpart` relates the builders of the two at each moment; every step keeps it, from
registering an operand (`builds_materialize`) to finalizing the results (`builds_finalize`).  Main statement:
`lower_counterpart`, for whole partitions and for runs that fail as well.
-/

set_option autoImplicit false

namespace PartitionLowering

/-- Tensors that are equal but for payloads of the hidden types, which keep their lengths. -/
structure Tensor.SameBut (hidden : List TensorType) (tensor other : Tensor) : Prop where
  tensorType : tensor.tensorType = other.tensorType
  dims : tensor.dims = other.dims
  allocation : tensor.allocation = other.allocation
  data : Option.Rel (fun payload payload' => payload.length = payload'.length ∧
    (tensor.tensorType ∉ hidden → payload = payload')) tensor.data other.data

def ScheduledNode.rename (names : Renaming) (node : ScheduledNode) : ScheduledNode :=
  { node with inputs := node.inputs.map names, outputs := node.outputs.map names }

def Partition.rename (names : Renaming) (partition : Partition) : Partition where
  inputs := partition.inputs.map names
  outputs := partition.outputs.map names
  nodes := partition.nodes.map (ScheduledNode.rename names)

/-- Other indices for all operands; an operand that is left out stays left out. -/
structure Renaming.Lawful (names : Renaming) : Prop where
  injective : Function.Injective names
  sign : ∀ index, 0 ≤ names index ↔ 0 ≤ index

abbrev hiddenElements (hidden : List TensorType) : List ElementType :=
  hidden.filterMap Layout.elementType?

def Likeness.payloads {hidden : List ElementType} (unread : Unread hidden) : Likeness where
  Graphs := Graph.SameBut hidden
  Ids _ _ id id' := id = id'
  mono _ _ same := same
  typed := by
    rintro graph graph' id _ same rfl
    rcases same.node? id with ⟨missing, missing'⟩ | ⟨node, node', found, found', alike⟩
    · rw [missing, missing']
    · rw [found, found', Option.map_some, Option.map_some, alike.alike]
  infer := by
    intro graph graph' ids ids' same equal op
    rw [List.forall₂_eq_eq_eq] at equal
    subst equal
    exact same.infer unread op ids
  push := by
    intro graph graph' ids ids' same equal op _ type
    rw [List.forall₂_eq_eq_eq] at equal
    subst equal
    exact ⟨same.push (.inl rfl) ids, same.size⟩

/-! ## Builders -/

structure Builder.Counterpart (hidden : List TensorType) (names : Renaming)
    (builder other : Builder) : Prop where
  graphs : builder.graph.SameBut (hiddenElements hidden) other.graph
  bound : ∀ index, other.registry.node? (names index) = builder.registry.node? index
  flagged : ∀ index, other.registry.isFlagged (names index) = builder.registry.isFlagged index
  parameters : builder.parameters = other.parameters
  results : builder.results = other.results

def Contexts (hidden : List TensorType) (names : Renaming) (tensors tensors' : TensorContext)
    (inputs : List OperandIndex) : Prop :=
  ∀ index ∈ inputs, Option.Rel (Tensor.SameBut hidden) (tensors.get? index)
    (tensors'.get? (names index))

section Lookups

variable {hidden : List TensorType} {names : Renaming} {tensors tensors' : TensorContext}
  {inputs : List OperandIndex} {index : OperandIndex} {tensor tensor' : Tensor}

theorem Contexts.of_subset {needs : List OperandIndex} (within : needs ⊆ inputs)
    (contexts : Contexts hidden names tensors tensors' inputs) :
    Contexts hidden names tensors tensors' needs :=
  fun index member => contexts index (within member)

theorem Contexts.head (contexts : Contexts hidden names tensors tensors' (index :: inputs)) :
    Contexts hidden names tensors tensors' [index] :=
  contexts.of_subset (List.cons_subset.2 ⟨List.mem_cons_self, List.nil_subset _⟩)

theorem Contexts.tail (contexts : Contexts hidden names tensors tensors' (index :: inputs)) :
    Contexts hidden names tensors tensors' inputs :=
  contexts.of_subset (List.subset_cons_self index inputs)

theorem alike_tensor (contexts : Contexts hidden names tensors tensors' inputs)
    (member : index ∈ inputs) :
    Alike names (Tensor.SameBut hidden) (Scope.tensor tensors index)
      (Scope.tensor tensors' (names index)) := by
  rw [Scope.tensor, Scope.tensor]
  rcases rel_cases (contexts index member) with
    ⟨missing, missing'⟩ | ⟨tensor, tensor', known, known', same⟩
  · rw [missing, missing']
    exact alike_error (.missingOperand index)
  · rw [known, known']
    exact alike_ok same

theorem int32_not_hidden (unread : Unread (hiddenElements hidden)) : .int32 ∉ hidden := by
  intro member
  have code := unread .i32 (List.mem_filterMap.2 ⟨_, member, rfl⟩)
  cases code

theorem Tensor.SameBut.readAlike (unread : Unread (hiddenElements hidden))
    (same : tensor.SameBut hidden tensor') : tensor.ReadAlike tensor' := by
  refine ⟨same.dims, ?_⟩
  rw [Tensor.int32Values?, Tensor.int32Values?, ← same.tensorType]
  by_cases integers : tensor.tensorType = .int32
  · rw [if_pos integers, if_pos integers]
    rcases rel_cases same.data with ⟨none, none'⟩ | ⟨payload, payload', held, held', _, equal⟩
    · rw [none, none']
    · rw [held, held', equal (integers ▸ int32_not_hidden unread)]
  · rw [if_neg integers, if_neg integers]

theorem Tensor.SameBut.elementCount? (same : tensor.SameBut hidden tensor') :
    tensor.elementCount? = tensor'.elementCount? := by
  rw [Tensor.elementCount?, Tensor.elementCount?, same.dims]

theorem Tensor.SameBut.byteSize? (same : tensor.SameBut hidden tensor') :
    tensor.byteSize? = tensor'.byteSize? := by
  rw [Tensor.byteSize?, Tensor.byteSize?, same.elementCount?, same.tensorType]

theorem alike_elementType (type : TensorType) :
    Alike names Eq (Layout.elementType type) (Layout.elementType type) := by
  rw [Layout.elementType]
  cases Layout.elementType? type with
  | none => exact alike_error (.unsupportedType type)
  | some elementType => exact alike_ok rfl

theorem alike_shape (dims : List Int32) :
    Alike names Eq (Layout.shape dims) (Layout.shape dims) := by
  rw [Layout.shape]
  by_cases positive : (dims.all fun dim => 0 < dim) = true
  · rw [if_pos positive]
    exact alike_ok rfl
  · rw [if_neg positive]
    exact alike_error (.degenerateShape dims)

/-- A guard that holds in both look-ups or in neither. -/
theorem alike_guard {α β : Type} {Related : α → β → Prop} {condition condition' : Prop}
    [Decidable condition] [Decidable condition'] (same : condition ↔ condition') (failure : Failure)
    {rest : Except Failure α} {rest' : Except Failure β}
    (goesOn : ¬condition → Alike names Related rest rest') :
    Alike names Related (if condition then .error failure else rest)
      (if condition' then .error (failure.rename names) else rest') := by
  by_cases holds : condition
  · rw [if_pos holds, if_pos (same.1 holds)]
    exact alike_error failure
  · rw [if_neg holds, if_neg fun holds' => holds (same.2 holds')]
    exact goesOn holds

end Lookups

/-! ## Checks -/

section Checks

variable {hidden : List TensorType} {names : Renaming} (lawful : names.Lawful)
  {tensors tensors' : TensorContext}

theorem Renaming.Lawful.negative {names : Renaming} (lawful : names.Lawful) (index : OperandIndex) :
    index < 0 ↔ names index < 0 := by
  have sign := lawful.sign index
  constructor
  · intro negative
    exact Int32.not_le.1 fun valid => Int32.not_le.2 negative (sign.1 valid)
  · intro negative
    exact Int32.not_le.1 fun valid => Int32.not_le.2 negative (sign.2 valid)

include lawful

theorem alike_checkOperand (rule : SupportRule) (position : Nat) {index : OperandIndex}
    (contexts : Contexts hidden names tensors tensors' [index]) :
    Alike names (fun _ _ => True) (Support.checkOperand rule tensors position index)
      (Support.checkOperand rule tensors' position (names index)) := by
  simp only [Support.checkOperand, throw_eq_error, error_bind]
  apply alike_guard (lawful.negative index) (.missingOperand index)
  intro _
  apply (alike_tensor contexts (List.mem_singleton.2 rfl)).bind
  intro tensor tensor' same
  have rank : tensor.rank = tensor'.rank := congrArg List.length same.dims
  rw [← same.tensorType, ← same.dims, ← same.elementCount?, ← rank]
  apply alike_guard Iff.rfl (.unsupportedType tensor.tensorType)
  intro _
  apply alike_guard Iff.rfl (.unsupportedRank tensor.rank)
  intro _
  apply alike_guard Iff.rfl (.unsupportedRank 0)
  intro _
  apply alike_guard Iff.rfl (.degenerateShape tensor.dims)
  intro _
  exact alike_ok trivial

theorem alike_checkOperands (rule : SupportRule) {operands : List OperandIndex} :
    ∀ position, Contexts hidden names tensors tensors' operands →
      Alike names (fun _ _ => True) (Support.checkOperands rule tensors position operands)
        (Support.checkOperands rule tensors' position (operands.map names)) := by
  induction operands with
  | nil =>
    intro _ _
    exact alike_ok trivial
  | cons index rest ih =>
    intro position contexts
    rw [List.map_cons, Support.checkOperands, Support.checkOperands]
    apply (alike_checkOperand lawful rule position contexts.head).bind
    intro _ _ _
    exact ih (position + 1) contexts.tail

omit lawful in
theorem alike_checkedInputs (rule : SupportRule) (inputs : List OperandIndex) :
    Alike names (fun operands operands' => operands' = operands.map names ∧ operands ⊆ inputs)
      (Support.checkedInputs rule inputs) (Support.checkedInputs rule (inputs.map names)) := by
  rw [Support.checkedInputs, Support.checkedInputs, List.length_map]
  cases rule.ranks with
  | some ranks =>
    by_cases count : inputs.length = ranks.length
    · simp only [count, if_true]
      exact alike_ok ⟨rfl, List.Subset.refl inputs⟩
    · simp only [count, if_false]
      exact alike_error (.invalidArgument (.inputCount ranks.length inputs.length))
  | none =>
    by_cases enough : rule.types.length ≤ inputs.length
    · simp only [enough, if_true]
      exact alike_ok ⟨List.map_take.symm, List.take_subset _ inputs⟩
    · simp only [enough, if_false]
      exact alike_error (.invalidArgument (.leastInputCount rule.types.length inputs.length))

omit lawful in
theorem alike_checkOptions (op : OpCode) (options : BuiltinOptions) :
    Alike names (fun _ _ => True) (Support.checkOptions op options)
      (Support.checkOptions op options) := by
  unfold Support.checkOptions
  by_cases fits : Support.optionsMatch op options = true
  · rw [if_pos fits]
    cases options with
    | softmax softmax =>
      by_cases one : (softmax.beta == 1) = true
      · simp only [one, if_true]
        exact alike_ok trivial
      · simp only [one]
        exact alike_error (.invalidArgument (.softmaxBeta softmax.beta))
    | _ => exact alike_ok trivial
  · rw [if_neg fits]
    exact alike_error (.invalidArgument (.optionsOfOp op options))

theorem alike_check (op : OpCode) {inputs : List OperandIndex} (options : BuiltinOptions)
    (contexts : Contexts hidden names tensors tensors' inputs) :
    Alike names (fun _ _ => True) (Support.check op inputs options tensors)
      (Support.check op (inputs.map names) options tensors') := by
  rw [Support.check, Support.check, List.length_map]
  cases Support.rule? op inputs.length with
  | none => exact alike_error (.unsupportedOperator op)
  | some rule =>
    apply (alike_checkedInputs rule inputs).bind
    rintro operands _ ⟨rfl, within⟩
    apply (alike_checkOperands lawful rule 0 (contexts.of_subset within)).bind
    intro _ _ _
    exact alike_checkOptions op options

end Checks

/-! ## Steps of a builder -/

section Building

variable {hidden : List TensorType} {names : Renaming} {builder builder' : Builder}

abbrev Builds {α β : Type} (hidden : List TensorType) (names : Renaming) (Shows : α → β → Prop)
    (step : Build α) (builder : Builder) (other : Build β) (builder' : Builder) : Prop :=
  Agree names (fun after after' value value' =>
    after.Counterpart hidden names after' ∧ Shows value value') step builder other builder'

variable (counterpart : builder.Counterpart hidden names builder')

include counterpart

theorem Builder.Counterpart.withDraft {draft draft' : Draft}
    (graphs : draft.graph.SameBut (hiddenElements hidden) draft'.graph) :
    Builder.Counterpart hidden names { builder with draft } { builder' with draft := draft' } :=
  ⟨graphs, counterpart.bound, counterpart.flagged, counterpart.parameters, counterpart.results⟩

theorem builds_pure {α β : Type} {Shows : α → β → Prop} {value : α} {value' : β}
    (shown : Shows value value') :
    Builds hidden names Shows (pure value) builder (pure value') builder' :=
  agree_ok rfl rfl ⟨counterpart, shown⟩

theorem builds_emitting (unread : Unread (hiddenElements hidden)) {α β : Type}
    {Shows : α → β → Prop} {step : Emit α} {other : Emit β}
    (emits : (Likeness.payloads unread).Emits names (fun _ _ => Shows) step builder.draft other
      builder'.draft) :
    Builds hidden names Shows (Builder.emitting step) builder (Builder.emitting other) builder' := by
  rcases emits counterpart.graphs with
    ⟨value, value', draft, draft', ran, ran', steps, shown⟩ | ⟨failure, draft, draft', failed, failed'⟩
  · refine agree_ok (Builder.emitting_of_ok ran) (Builder.emitting_of_ok ran') ⟨?_, shown⟩
    exact counterpart.withDraft steps.graphs
  · exact .inr ⟨failure, _, _, Builder.emitting_of_error failed, Builder.emitting_of_error failed'⟩

theorem builds_note (event event' : Event) :
    Builds hidden names (fun _ _ => True) (Builder.note event) builder (Builder.note event')
      builder' :=
  agree_ok rfl rfl ⟨counterpart.withDraft counterpart.graphs, trivial⟩

theorem builds_bind (lawful : names.Lawful) (index : OperandIndex) (node : NodeId) :
    Builds hidden names (fun _ _ => True) (Builder.bind index node) builder
      (Builder.bind (names index) node) builder' := by
  refine agree_ok rfl rfl ⟨⟨counterpart.graphs, ?_, counterpart.flagged, counterpart.parameters,
    counterpart.results⟩, trivial⟩
  intro other
  by_cases same : other = index
  · rw [same]
    exact (Registry.node?_bind_self _ _ _).trans (Registry.node?_bind_self _ _ _).symm
  · have apart : names other ≠ names index := fun equal => same (lawful.injective equal)
    refine (Registry.node?_bind_of_ne _ _ _ apart).trans ?_
    exact (counterpart.bound other).trans (Registry.node?_bind_of_ne _ _ _ same).symm

theorem builds_flag (lawful : names.Lawful) (index : OperandIndex) :
    Builds hidden names (fun _ _ => True) (Builder.flag index) builder (Builder.flag (names index))
      builder' := by
  refine agree_ok rfl rfl ⟨⟨counterpart.graphs, counterpart.bound, ?_, counterpart.parameters,
    counterpart.results⟩, trivial⟩
  intro other
  have same : names other = names index ↔ other = index := lawful.injective.eq_iff
  refine (Registry.isFlagged_flag _ _ _).trans ?_
  rw [counterpart.flagged other, Registry.isFlagged_flag]
  simp only [same]

theorem builds_appendParameter (node : NodeId) :
    Builds hidden names (fun _ _ => True) (Builder.appendParameter node) builder
      (Builder.appendParameter node) builder' := by
  refine agree_ok rfl rfl ⟨⟨counterpart.graphs, counterpart.bound, counterpart.flagged, ?_,
    counterpart.results⟩, trivial⟩
  exact congrArg (· ++ [node]) counterpart.parameters

/-- Nodes of one type are added that differ in a hidden payload at most. -/
theorem Builder.Counterpart.push {op op' : Op} {type : OutputType}
    (ops : op.SameBut (hiddenElements hidden) type.2 op') :
    Agree names (fun after after' node node' => after.Counterpart hidden names after' ∧
        node.id = node'.id ∧ after.graph.contains node.id = true ∧
          after'.graph.contains node'.id = true)
      (Builder.emitting (Emit.keep (builder.graph.push op [] type))) builder
      (Builder.emitting (Emit.keep (builder'.graph.push op' [] type))) builder' := by
  refine agree_ok rfl rfl ⟨counterpart.withDraft (counterpart.graphs.push ops []), ?_, ?_, ?_⟩
  · exact counterpart.graphs.size
  · exact Graph.contains_of_node? (Graph.node?_push_self builder.graph op [] type)
  · exact Graph.contains_of_node? (Graph.node?_push_self builder'.graph op' [] type)

theorem Builder.Counterpart.parameter (type : ElementType) (shape : Shape) :
    Agree names (fun after after' node node' => after.Counterpart hidden names after' ∧
        node.id = node'.id ∧ after.graph.contains node.id = true ∧
          after'.graph.contains node'.id = true)
      (Builder.emitting (Emit.parameter type shape)) builder
      (Builder.emitting (Emit.parameter type shape)) builder' := by
  have same : Op.parameter.SameBut (hiddenElements hidden) type .parameter := .inl rfl
  exact counterpart.push (show Op.parameter.SameBut _ (shape, type).2 .parameter from same)

end Building

/-! ## Registering operands -/

section Registering

variable {hidden : List TensorType} {names : Renaming} (lawful : names.Lawful)
  {builder builder' : Builder} {tensor tensor' : Tensor}

include lawful

theorem alike_inputType (same : tensor.SameBut hidden tensor') (index : OperandIndex) :
    Alike names Eq (Builder.inputType tensor index) (Builder.inputType tensor' (names index)) := by
  have rank : tensor.rank = tensor'.rank := congrArg List.length same.dims
  simp only [Builder.inputType, throw_eq_error, error_bind, ← same.tensorType, ← same.dims, ← rank]
  apply alike_guard (lawful.negative index) (.invalidArgument (.inputIndex index))
  intro _
  apply alike_guard Iff.rfl (.invalidArgument (.inputWithoutDims index))
  intro _
  apply alike_guard Iff.rfl (.unsupportedRank tensor.rank)
  intro _
  apply (alike_elementType tensor.tensorType).bind
  rintro elementType _ rfl
  apply (alike_shape tensor.dims).bind
  rintro shape _ rfl
  exact alike_ok rfl

theorem builds_registerInput (unread : Unread (hiddenElements hidden))
    (counterpart : builder.Counterpart hidden names builder')
    (same : tensor.SameBut hidden tensor') (index : OperandIndex) :
    Builds hidden names (fun _ _ => True) (Builder.registerInput tensor index) builder
      (Builder.registerInput tensor' (names index)) builder' := by
  unfold Builder.registerInput
  apply agree_lookup (alike_inputType lawful same index)
  rintro ⟨elementType, shape⟩ _ rfl
  dsimp only
  apply (counterpart.parameter elementType shape).bind
  rintro node node' first first' ⟨counterpart₁, ids, there, there'⟩
  rw [← same.dims, ← ids]
  rw [← ids] at there'
  have same_id : (Likeness.payloads unread).Ids first.graph first'.graph node.id node.id := rfl
  apply (builds_emitting counterpart₁ unread
    (Likeness.emits_toEngine same_id there there' tensor.dims)).bind
  rintro result result' second second' ⟨counterpart₂, results⟩
  rw [← results]
  apply (builds_appendParameter counterpart₂ node.id).bind
  rintro _ _ third third' ⟨counterpart₃, _⟩
  apply (builds_bind counterpart₃ lawful index result).bind
  rintro _ _ fourth fourth' ⟨counterpart₄, _⟩
  apply (builds_flag counterpart₄ lawful index).bind
  rintro _ _ fifth fifth' ⟨counterpart₅, _⟩
  exact builds_note counterpart₅ _ _

def SameContent (hidden : List ElementType) (content other : ElementType × Shape × List UInt8) : Prop :=
  content.1 = other.1 ∧ content.2.1 = other.2.1 ∧ content.2.2.length = other.2.2.length ∧
    (content.1 ∉ hidden → content.2.2 = other.2.2)

theorem alike_constantContent (same : tensor.SameBut hidden tensor') (index : OperandIndex) :
    Alike names (SameContent (hiddenElements hidden)) (Builder.constantContent tensor index)
      (Builder.constantContent tensor' (names index)) := by
  simp only [Builder.constantContent, throw_eq_error, error_bind, ← same.tensorType, ← same.dims,
    ← same.byteSize?]
  apply alike_guard (lawful.negative index) (.invalidArgument (.constantIndex index))
  intro _
  apply alike_guard Iff.rfl (.invalidArgument (.constantWithoutDims index))
  intro _
  rcases rel_cases same.data with ⟨none, none'⟩ | ⟨payload, payload', held, held', lengths, equal⟩
  · rw [none, none']
    exact alike_error (.invalidArgument (.constantWithoutData index))
  rw [held, held']
  dsimp only
  rw [Layout.elementType]
  cases mapped : Layout.elementType? tensor.tensorType with
  | none => exact alike_error (.unsupportedType tensor.tensorType)
  | some elementType =>
    rw [ok_bind, ok_bind]
    apply (alike_shape tensor.dims).bind
    rintro shape _ rfl
    cases tensor.byteSize? with
    | none => exact alike_error (.degenerateShape tensor.dims)
    | some expected =>
      dsimp only
      rw [← lengths]
      apply alike_guard Iff.rfl (.invalidArgument (.payloadSize index payload.length expected))
      intro _
      refine alike_ok ⟨rfl, rfl, lengths, fun shown => equal fun member => shown ?_⟩
      exact List.mem_filterMap.2 ⟨tensor.tensorType, member, mapped⟩

theorem builds_registerConstant (counterpart : builder.Counterpart hidden names builder')
    (same : tensor.SameBut hidden tensor') (index : OperandIndex) :
    Builds hidden names (fun _ _ => True) (Builder.registerConstant tensor index) builder
      (Builder.registerConstant tensor' (names index)) builder' := by
  unfold Builder.registerConstant
  apply agree_lookup (alike_constantContent lawful same index)
  rintro ⟨elementType, shape, data⟩ ⟨_, _, data'⟩ ⟨rfl, rfl, lengths, equal⟩
  have ops : (Op.constant data).SameBut (hiddenElements hidden) elementType (.constant data') := by
    by_cases shown : elementType ∈ hiddenElements hidden
    · exact .inr ⟨shown, data, data', rfl, rfl, lengths⟩
    · exact .inl (congrArg Op.constant (equal shown))
  dsimp only at lengths ⊢
  apply agree_get
  rw [Graph.addConstant, Graph.addConstant, ← lengths, ← same.dims]
  cases (Shape.elementCount? shape).bind elementType.byteLength? with
  | none => exact agree_throw (.invalidArgument (.constantShape index (.overflow shape)))
  | some expected =>
    by_cases sized : data.length = expected
    · simp only [sized, if_true]
      apply (counterpart.push ops).bind
      rintro node node' first first' ⟨counterpart₁, ids, _⟩
      rw [← ids]
      apply (builds_bind counterpart₁ lawful index node.id).bind
      rintro _ _ second second' ⟨counterpart₂, _⟩
      exact builds_note counterpart₂ _ _
    · simp only [sized, if_false]
      exact agree_throw
        (.invalidArgument (.constantShape index (.constantSize expected data.length)))

variable {tensors tensors' : TensorContext}

theorem mem_map_names (index : OperandIndex) (indices : List OperandIndex) :
    names index ∈ indices.map names ↔ index ∈ indices :=
  List.mem_map_of_injective lawful.injective

theorem builds_materialize (unread : Unread (hiddenElements hidden))
    (counterpart : builder.Counterpart hidden names builder') (partition : Partition)
    {index : OperandIndex} (contexts : Contexts hidden names tensors tensors' [index]) :
    Builds hidden names (fun given given' => given' = given.map names)
      (partition.materialize tensors index) builder
      ((partition.rename names).materialize tensors' (names index)) builder' := by
  have bound : builder'.registry.contains (names index) = builder.registry.contains index :=
    congrArg Option.isSome (counterpart.bound index)
  have member : names index ∈ (partition.rename names).inputs ↔ index ∈ partition.inputs :=
    mem_map_names lawful index partition.inputs
  unfold Partition.materialize
  apply agree_get
  rw [bound]
  by_cases known : builder.registry.contains index = true
  · simp only [known, if_true]
    exact builds_pure counterpart rfl
  simp only [known, Bool.false_eq_true, if_false]
  apply agree_lookup (alike_tensor contexts (List.mem_singleton.2 rfl))
  rintro tensor tensor' same
  rw [← same.allocation]
  by_cases weights : tensor.allocation = .mmapRo
  · simp only [weights, if_true]
    apply (builds_registerConstant lawful counterpart same index).bind
    rintro _ _ first first' ⟨counterpart₁, _⟩
    exact builds_pure counterpart₁ rfl
  · by_cases given : index ∈ partition.inputs
    · simp only [weights, member, given, if_true, if_false]
      apply (builds_registerInput lawful unread counterpart same index).bind
      rintro _ _ first first' ⟨counterpart₁, _⟩
      exact builds_pure counterpart₁ rfl
    · simp only [weights, member, given, if_false]
      exact builds_pure counterpart rfl

theorem builds_materializeAll (unread : Unread (hiddenElements hidden)) (partition : Partition)
    {indices : List OperandIndex} :
    ∀ {builder builder' : Builder}, builder.Counterpart hidden names builder' →
      Contexts hidden names tensors tensors' indices →
      Builds hidden names (fun given given' => given' = given.map names)
        (partition.materializeAll tensors indices) builder
        ((partition.rename names).materializeAll tensors' (indices.map names)) builder' := by
  induction indices with
  | nil =>
    intro builder builder' counterpart _
    exact builds_pure counterpart rfl
  | cons index rest ih =>
    intro builder builder' counterpart contexts
    apply (builds_materialize lawful unread counterpart partition contexts.head).bind
    rintro first _ between between' ⟨counterpart₁, rfl⟩
    apply (ih counterpart₁ contexts.tail).bind
    rintro others _ after after' ⟨counterpart₂, rfl⟩
    exact builds_pure counterpart₂ List.map_append.symm

end Registering

/-! ## Nodes -/

section Nodes

variable {hidden : List TensorType} {names : Renaming} (lawful : names.Lawful)
  {builder builder' : Builder} {tensors tensors' : TensorContext}

theorem alike_ofOpCode (op : OpCode) :
    Alike names Eq (Recipe.ofOpCode op) (Recipe.ofOpCode op) := by
  rw [Recipe.ofOpCode]
  cases Recipe.ofOpCode? op with
  | none => exact alike_error (.unsupportedOperator op)
  | some recipe => exact alike_ok rfl

theorem alike_target (id : Int32) (node : ScheduledNode) :
    Alike names (fun target target' => target' = (names target.1, target.2))
      (Builder.target id node) (Builder.target id (node.rename names)) := by
  simp only [Builder.target, throw_eq_error, error_bind, ScheduledNode.rename, List.head?_map]
  apply alike_guard Iff.rfl (.invalidArgument (.nodeId id))
  intro _
  cases node.outputs.head? with
  | none => exact alike_error (.invalidArgument (.nodeWithoutOutputs id))
  | some output =>
    apply (alike_ofOpCode node.op).bind
    rintro recipe _ rfl
    exact alike_ok rfl

include lawful

theorem ScheduledNode.neededInputs_rename (node : ScheduledNode) :
    (node.rename names).neededInputs = node.neededInputs.map names := by
  have kept : ∀ indices : List OperandIndex,
      (indices.map names).filter (fun index => 0 ≤ index) =
        (indices.filter fun index => 0 ≤ index).map names := by
    intro indices
    rw [List.filter_map]
    congr 2
    funext index
    exact decide_eq_decide.2 (lawful.sign index)
  rw [ScheduledNode.neededInputs, ScheduledNode.neededInputs, ← kept]
  by_cases transposed : node.op = .builtin .transposeConv
  · have transposed' : (node.rename names).op = .builtin .transposeConv := transposed
    rw [if_pos transposed, if_pos transposed', ScheduledNode.rename, List.map_drop]
  · have transposed' : ¬(node.rename names).op = .builtin .transposeConv := transposed
    rw [if_neg transposed, if_neg transposed', ScheduledNode.rename]

theorem Builder.Counterpart.scopes (unread : Unread (hiddenElements hidden))
    (counterpart : builder.Counterpart hidden names builder') {inputs : List OperandIndex}
    (contexts : Contexts hidden names tensors tensors' inputs) (start : Nat) :
    (Likeness.payloads unread).Scopes names start builder.graph builder'.graph inputs
      ⟨builder.registry, tensors⟩ ⟨builder'.registry, tensors'⟩ := by
  refine ⟨fun index _ => lawful.sign index, ?_, fun index _ => counterpart.flagged index, ?_⟩
  · intro index _
    rw [counterpart.bound index]
    cases builder.registry.node? index with
    | none => exact .none
    | some id => exact .some rfl
  · intro index member
    rcases rel_cases (contexts index member) with
      ⟨missing, missing'⟩ | ⟨tensor, tensor', known, known', same⟩
    · rw [missing, missing']
      exact .none
    · rw [known, known']
      exact .some (same.readAlike unread)

theorem builds_lowerNode (unread : Unread (hiddenElements hidden))
    (counterpart : builder.Counterpart hidden names builder') (id : Int32) {node : ScheduledNode}
    (contexts : Contexts hidden names tensors tensors' node.inputs) :
    Builds hidden names (fun _ _ => True) (Builder.lowerNode id node tensors) builder
      (Builder.lowerNode id (node.rename names) tensors') builder' := by
  unfold Builder.lowerNode
  apply agree_lookup (alike_target id node)
  rintro ⟨output, recipe⟩ _ rfl
  dsimp only
  apply agree_get
  have scopes := counterpart.scopes lawful unread contexts recipe.unbound
  apply (builds_emitting counterpart unread (recipe.emits_emit scopes node.options)).bind
  rintro result _ first first' ⟨counterpart₁, rfl⟩
  apply (builds_bind counterpart₁ lawful output result).bind
  rintro _ _ second second' ⟨counterpart₂, _⟩
  exact builds_note counterpart₂ _ _

theorem builds_lowerNode_of_partition (unread : Unread (hiddenElements hidden))
    (counterpart : builder.Counterpart hidden names builder') (partition : Partition)
    {node : ScheduledNode} (contexts : Contexts hidden names tensors tensors' node.inputs) :
    Builds hidden names (fun given given' => given' = given.map names)
      (partition.lowerNode tensors node) builder
      ((partition.rename names).lowerNode tensors' (node.rename names)) builder' := by
  unfold Partition.lowerNode
  apply agree_lookup (alike_check lawful node.op node.options contexts)
  rintro _ _ _
  have needed : Contexts hidden names tensors tensors' node.neededInputs :=
    contexts.of_subset fun _ member => (mem_of_mem_neededInputs member).1
  rw [ScheduledNode.neededInputs_rename lawful]
  apply (builds_materializeAll lawful unread partition counterpart needed).bind
  rintro given _ first first' ⟨counterpart₁, rfl⟩
  apply (builds_lowerNode lawful unread counterpart₁ node.id contexts).bind
  rintro _ _ second second' ⟨counterpart₂, _⟩
  exact builds_pure counterpart₂ rfl

theorem builds_lowerNodes (unread : Unread (hiddenElements hidden)) (partition : Partition)
    {nodes : List ScheduledNode} :
    ∀ {builder builder' : Builder}, builder.Counterpart hidden names builder' →
      (∀ node ∈ nodes, Contexts hidden names tensors tensors' node.inputs) →
      Builds hidden names (fun given given' => given' = given.map names)
        (partition.lowerNodes tensors nodes) builder
        ((partition.rename names).lowerNodes tensors' (nodes.map (ScheduledNode.rename names)))
        builder' := by
  induction nodes with
  | nil =>
    intro builder builder' counterpart _
    exact builds_pure counterpart rfl
  | cons node rest ih =>
    intro builder builder' counterpart contexts
    have here := contexts node List.mem_cons_self
    apply (builds_lowerNode_of_partition lawful unread counterpart partition here).bind
    rintro first _ between between' ⟨counterpart₁, rfl⟩
    apply (ih counterpart₁ fun other member => contexts other (List.mem_cons_of_mem _ member)).bind
    rintro others _ after after' ⟨counterpart₂, rfl⟩
    exact builds_pure counterpart₂ List.map_append.symm

end Nodes

/-! ## Partitions -/

section Partitions

variable {hidden : List TensorType} {names : Renaming} {builder builder' : Builder}
  {tensors tensors' : TensorContext}

theorem builds_resultNode (unread : Unread (hiddenElements hidden))
    (counterpart : builder.Counterpart hidden names builder') (index : OperandIndex) :
    Builds hidden names Eq (Builder.resultNode index) builder
      (Builder.resultNode (names index)) builder' := by
  unfold Builder.resultNode
  apply agree_get
  have bound : Option.Rel Eq (builder.registry.node? index)
      (builder'.registry.node? (names index)) := by
    rw [counterpart.bound index]
    cases builder.registry.node? index with
    | none => exact .none
    | some id => exact .some rfl
  have sameRank : ∀ id, (builder'.graph.node? id).any (·.rank = 4) =
      (builder.graph.node? id).any (·.rank = 4) := by
    intro id
    rcases counterpart.graphs.node? id with ⟨missing, missing'⟩ | ⟨node, node', found, found', same⟩
    · rw [missing, missing']
    · have rank : node.rank = node'.rank := same.alike.rank
      rw [found, found', Option.any_some, Option.any_some, rank]
  apply agree_lookup (alike_node bound)
  rintro id _ rfl
  simp only [sameRank id]
  by_cases image : (builder.graph.node? id).any (·.rank = 4) = true
  · simp only [image, if_true]
    have there : builder.graph.contains id = true := by
      cases found : builder.graph.node? id with
      | none => simp [found] at image
      | some node => exact Graph.contains_of_node? found
    have same_id : (Likeness.payloads unread).Ids builder.graph builder'.graph id id := rfl
    exact builds_emitting counterpart unread (Likeness.emits_toHost same_id there)
  · simp only [image]
    exact builds_pure counterpart rfl

theorem builds_resultNodes (unread : Unread (hiddenElements hidden)) {indices : List OperandIndex} :
    ∀ {builder builder' : Builder}, builder.Counterpart hidden names builder' →
      Builds hidden names Eq (Builder.resultNodes indices) builder
        (Builder.resultNodes (indices.map names)) builder' := by
  induction indices with
  | nil =>
    intro builder builder' counterpart
    exact builds_pure counterpart rfl
  | cons index rest ih =>
    intro builder builder' counterpart
    apply (builds_resultNode unread counterpart index).bind
    rintro id _ between between' ⟨counterpart₁, rfl⟩
    apply (ih counterpart₁).bind
    rintro ids _ after after' ⟨counterpart₂, rfl⟩
    exact builds_pure counterpart₂ rfl

theorem builds_finalize (unread : Unread (hiddenElements hidden))
    (counterpart : builder.Counterpart hidden names builder') (outputs : List OperandIndex) :
    Builds hidden names (fun _ _ => True) (Builder.finalize outputs) builder
      (Builder.finalize (outputs.map names)) builder' := by
  unfold Builder.finalize
  by_cases none : outputs = []
  · simp only [none, List.map_nil, if_true]
    exact agree_throw (.invalidArgument .noOutputs)
  · simp only [none, List.map_eq_nil_iff, if_false]
    apply (builds_resultNodes unread counterpart).bind
    rintro ids _ after after' ⟨counterpart₁, rfl⟩
    refine agree_ok rfl rfl ⟨?_, trivial⟩
    obtain ⟨graphs, bound, flagged, parameters, results⟩ := counterpart₁
    exact ⟨graphs, bound, flagged, parameters, congrArg (· ++ ids) results⟩

theorem builds_build (lawful : names.Lawful) (unread : Unread (hiddenElements hidden))
    (counterpart : builder.Counterpart hidden names builder') {partition : Partition}
    (contexts : ∀ node ∈ partition.nodes, Contexts hidden names tensors tensors' node.inputs)
    (settings : Settings) :
    Builds hidden names (fun given given' => given' = given.map names)
      (partition.build tensors settings) builder
      ((partition.rename names).build tensors' settings) builder' := by
  unfold Partition.build
  by_cases none : partition.nodes = []
  · simp only [Partition.rename, none, List.map_nil, if_true]
    exact agree_throw (.invalidArgument .noNodes)
  · have none' : (partition.rename names).nodes ≠ [] := fun empty => none (List.map_eq_nil_iff.1 empty)
    simp only [none, none', if_false]
    apply (builds_lowerNodes lawful unread partition counterpart contexts).bind
    rintro given _ first first' ⟨counterpart₁, rfl⟩
    apply (builds_finalize unread counterpart₁ partition.outputs).bind
    rintro _ _ second second' ⟨counterpart₂, _⟩
    apply agree_get
    apply (builds_note counterpart₂ _ _).bind
    rintro _ _ third third' ⟨counterpart₃, _⟩
    exact builds_pure counterpart₃ rfl

theorem counterpart_empty : Builder.Counterpart hidden names {} {} :=
  ⟨.nil, fun _ => rfl, fun _ => rfl, rfl, rfl⟩

structure LoweredPartition.Counterpart (hidden : List TensorType) (names : Renaming)
    (lowered other : LoweredPartition) : Prop where
  graphs : lowered.model.graph.SameBut (hiddenElements hidden) other.model.graph
  parameters : lowered.model.parameters = other.model.parameters
  results : lowered.model.results = other.model.results
  computeInputs : other.computeInputs = lowered.computeInputs.map names
  outputs : other.outputs = lowered.outputs.map names
  device : lowered.device = other.device

/-- A partition and its counterpart are lowered alike or fail alike. -/
theorem lower_counterpart (lawful : names.Lawful) (unread : Unread (hiddenElements hidden))
    {partition : Partition}
    (contexts : ∀ node ∈ partition.nodes, Contexts hidden names tensors tensors' node.inputs)
    (settings : Settings) :
    Alike names (LoweredPartition.Counterpart hidden names) (partition.lower tensors settings)
      ((partition.rename names).lower tensors' settings) := by
  rw [Partition.lower, Partition.lower, Partition.lowerWithJournal, Partition.lowerWithJournal]
  rcases builds_build lawful unread counterpart_empty contexts settings with
    ⟨given, _, built, built', ran, ran', counterpart, rfl⟩ | ⟨failure, _, _, failed, failed'⟩
  · rw [ran, ran']
    exact alike_ok ⟨counterpart.graphs, counterpart.parameters, counterpart.results, rfl, rfl, rfl⟩
  · rw [failed, failed']
    exact alike_error failure

end Partitions

end PartitionLowering
