import PartitionLowering.Lowering.Support
import PartitionLowering.Proofs.Host.Reference
import PartitionLowering.Proofs.Lowering.Registration

/-!
What a check that passes tells.  `Support.of_check` takes a check apart into its rule, its operands and
its options; `Support.of_checkOperand` says what an operand is that a rule admits.
-/

set_option autoImplicit false

namespace PartitionLowering

namespace Support

/-- An operand with a tensor of positive dims whose elements can be counted. -/
structure Admitted (tensors : TensorContext) (index : OperandIndex) (tensor : Tensor) : Prop where
  valid : 0 ≤ index
  known : tensors.get? index = some tensor
  given : tensor.dims ≠ []
  positive : ∀ dim ∈ tensor.dims, 0 < dim
  counted : tensor.elementCount? ≠ none

section Admitted

variable {tensors : TensorContext} {index : OperandIndex} {tensor : Tensor}

theorem Admitted.shape (admitted : Admitted tensors index tensor) :
    Layout.shape tensor.dims = .ok tensor.hostShape :=
  Layout.shape_eq_ok.2 ⟨admitted.positive, rfl⟩

theorem Admitted.elementCount? (admitted : Admitted tensors index tensor) :
    Shape.elementCount? tensor.hostShape ≠ none :=
  admitted.counted

theorem Admitted.unique (admitted : Admitted tensors index tensor) {other : Tensor}
    (known : tensors.get? index = some other) : other = tensor := by
  rw [admitted.known] at known
  exact (Option.some.inj known).symm

end Admitted

theorem of_checkOperand {rule : SupportRule} {tensors : TensorContext} {position : Nat}
    {index : OperandIndex} (passed : checkOperand rule tensors position index = .ok ()) :
    ∃ tensor, Admitted tensors index tensor ∧
      (∀ types, rule.types[position]? = some types → tensor.tensorType ∈ types) ∧
        ∀ ranks, rule.ranks.bind (·[position]?) = some ranks → tensor.rank ∈ ranks := by
  simp only [checkOperand, throw_eq_error, error_bind, guard_eq_ok, bind_eq_ok] at passed
  obtain ⟨negative, tensor, found, foreign, unranked, scalar, degenerate, _⟩ := passed
  have known : tensors.get? index = some tensor := by
    cases known : tensors.get? index with
    | none => simp [Scope.tensor, known] at found
    | some other => simpa [Scope.tensor, known] using found
  have given : tensor.dims ≠ [] := fun empty => scalar (by simp [Tensor.rank, empty])
  have positive : ∀ dim ∈ tensor.dims, 0 < dim := by
    intro dim member
    by_cases low : dim ≤ 0
    · exact absurd (.inl ⟨dim, member, low⟩) degenerate
    · exact Int32.not_le.1 low
  have counted : tensor.elementCount? ≠ none := fun none => degenerate (.inr none)
  refine ⟨tensor, ⟨Int32.not_lt.1 negative, known, given, positive, counted⟩, ?_, ?_⟩
  · intro types here
    simpa [here] using foreign
  · intro ranks here
    simpa [here] using unranked

theorem of_checkOperands {rule : SupportRule} {tensors : TensorContext} :
    ∀ {operands : List OperandIndex} {start : Nat},
      checkOperands rule tensors start operands = .ok () →
        ∀ position index, operands[position]? = some index →
          checkOperand rule tensors (start + position) index = .ok () := by
  intro operands
  induction operands with
  | nil => simp
  | cons first rest ih =>
    intro start passed position index here
    rw [checkOperands] at passed
    obtain ⟨_, head, tail⟩ := bind_eq_ok.1 passed
    cases position with
    | zero =>
      rw [List.getElem?_cons_zero] at here
      cases here
      exact head
    | succ position =>
      rw [List.getElem?_cons_succ] at here
      have later := ih tail position index here
      rwa [Nat.add_assoc, Nat.add_comm 1 position] at later

/-- A check that passes, taken apart. -/
theorem of_check {op : OpCode} {inputs : List OperandIndex} {options : BuiltinOptions}
    {tensors : TensorContext} (passed : check op inputs options tensors = .ok ()) :
    ∃ rule operands, rule? op inputs.length = some rule ∧ checkedInputs rule inputs = .ok operands ∧
      (∀ position index, operands[position]? = some index →
        checkOperand rule tensors position index = .ok ()) ∧
      checkOptions op options = .ok () := by
  rw [check] at passed
  cases known : rule? op inputs.length with
  | none => simp [known] at passed
  | some rule =>
    simp only [known] at passed
    obtain ⟨operands, checked, rest⟩ := bind_eq_ok.1 passed
    obtain ⟨_, admitted, matching⟩ := bind_eq_ok.1 rest
    refine ⟨rule, operands, rfl, checked, ?_, matching⟩
    intro position index here
    have passed_here := of_checkOperands admitted position index here
    rwa [Nat.zero_add] at passed_here

theorem optionsMatch_of_check {op : OpCode} {inputs : List OperandIndex} {options : BuiltinOptions}
    {tensors : TensorContext} (passed : check op inputs options tensors = .ok ()) :
    optionsMatch op options = true := by
  obtain ⟨_, _, _, _, _, matching⟩ := of_check passed
  unfold checkOptions at matching
  by_cases fits : optionsMatch op options = true
  · exact fits
  · simp [fits] at matching

def Takes (options : BuiltinOptions) : BuiltinOperator → Prop
  | .add => ∃ given, options = .add given
  | .mul => ∃ given, options = .mul given
  | .averagePool2d | .maxPool2d => ∃ given, options = .pool2d given
  | .conv2d => ∃ given, options = .conv2d given
  | .depthwiseConv2d => ∃ given, options = .depthwiseConv2d given
  | .transposeConv => ∃ given, options = .transposeConv given
  | .concatenation => ∃ given, options = .concatenation given
  | .resizeBilinear => ∃ given, options = .resizeBilinear given
  | _ => True

theorem takes_of_check {op : OpCode} {operator : BuiltinOperator} (known : op = .builtin operator)
    {inputs : List OperandIndex} {options : BuiltinOptions} {tensors : TensorContext}
    (passed : check op inputs options tensors = .ok ()) : Takes options operator := by
  have matching := optionsMatch_of_check passed
  rw [known] at matching
  cases operator <;> first
    | trivial
    | cases options <;> first
      | exact ⟨_, rfl⟩
      | cases matching

theorem of_check_ranked {op : OpCode} {inputs : List OperandIndex} {options : BuiltinOptions}
    {tensors : TensorContext} {types : List (List TensorType)} {ranks : List (List Nat)}
    (passed : check op inputs options tensors = .ok ())
    (ruled : rule? op inputs.length = some ⟨types, some ranks⟩) :
    inputs.length = ranks.length ∧ ∀ (position : Nat) (index : OperandIndex),
      inputs[position]? = some index →
      ∃ tensor, Admitted tensors index tensor ∧
        (∀ allowed, types[position]? = some allowed → tensor.tensorType ∈ allowed) ∧
          ∀ allowed, ranks[position]? = some allowed → tensor.rank ∈ allowed := by
  obtain ⟨rule, operands, known, checked, admitted, _⟩ := of_check passed
  rw [ruled] at known
  cases known
  rw [checkedInputs] at checked
  by_cases count : inputs.length = ranks.length
  · simp only [count, if_true, Except.ok.injEq] at checked
    subst checked
    exact ⟨count, fun position index here => of_checkOperand (admitted position index here)⟩
  · simp [count] at checked

/-- What a rule with ranks says of an operand whose tensor is known. -/
theorem ranked_of_known {op : OpCode} {inputs : List OperandIndex} {options : BuiltinOptions}
    {tensors : TensorContext} {types : List (List TensorType)} {ranks : List (List Nat)}
    (passed : check op inputs options tensors = .ok ())
    (ruled : rule? op inputs.length = some ⟨types, some ranks⟩) {position : Nat}
    {index : OperandIndex} (here : inputs[position]? = some index) {tensor : Tensor}
    (known : tensors.get? index = some tensor) :
    Admitted tensors index tensor ∧
      (∀ allowed, types[position]? = some allowed → tensor.tensorType ∈ allowed) ∧
        ∀ allowed, ranks[position]? = some allowed → tensor.rank ∈ allowed := by
  obtain ⟨_, each⟩ := of_check_ranked passed ruled
  obtain ⟨other, admitted, typed, ranked⟩ := each position index here
  cases admitted.unique known
  exact ⟨admitted, typed, ranked⟩

theorem of_check_unary {op : OpCode} {inputs : List OperandIndex} {options : BuiltinOptions}
    {tensors : TensorContext} (passed : check op inputs options tensors = .ok ())
    (ruled : rule? op inputs.length = some unaryRule) :
    ∃ index rest tensor, inputs = index :: rest ∧ Admitted tensors index tensor ∧
      tensor.tensorType = .float32 := by
  obtain ⟨rule, operands, known, checked, admitted, _⟩ := of_check passed
  rw [ruled] at known
  cases known
  cases inputs with
  | nil => simp [checkedInputs, unaryRule] at checked
  | cons index rest =>
    have taken : operands = [index] := by simpa [checkedInputs, unaryRule, eq_comm] using checked
    subst taken
    obtain ⟨tensor, fits, typed, _⟩ := of_checkOperand (admitted 0 index rfl)
    have float := typed [.float32] rfl
    exact ⟨index, rest, tensor, rfl, fits, by simpa using float⟩

end Support

end PartitionLowering
