import PartitionLowering.Proofs.Lowering.Acceptance
import PartitionLowering.Proofs.Lowering.Calls

/-!
The check and the recipes agree.  An operator has a rule where it has a recipe, and a check says that an
operator is not supported only where it has none; options that pass the check fit the recipe.  So a node
that passes the check is lowered, or fails where an operand is missing or the lowering is obstructed, in
every builder (`check_agrees_with_recipes`).
-/

set_option autoImplicit false

namespace PartitionLowering

namespace Support

/-! ## Rules and recipes -/

theorem rule?_eq_none {op : OpCode} {count : Nat} :
    rule? op count = none ↔ Recipe.ofOpCode? op = none := by
  cases op with
  | custom name =>
    by_cases known : name = OpCode.transposeConvBiasName
    · simp [rule?, Recipe.ofOpCode?, known]
    · simp [rule?, Recipe.ofOpCode?, known]
  | builtin operator => cases operator <;> simp [rule?, Recipe.ofOpCode?, Recipe.ofBuiltin?]

theorem fits_of_optionsMatch {op : OpCode} {options : BuiltinOptions} {recipe : Recipe}
    (matching : optionsMatch op options = true) (known : Recipe.ofOpCode? op = some recipe) :
    recipe.Fits options := by
  cases op with
  | custom name =>
    rw [Recipe.ofOpCode?] at known
    split_ifs at known
    cases known
    cases options <;> trivial
  | builtin operator => cases operator <;> cases known <;> cases options <;> trivial

/-! ## Failures of a check -/

def NamesNoOperator : Failure → Prop
  | .unsupportedOperator _ => False
  | _ => True

theorem failsWithin_checkedInputs (rule : SupportRule) (inputs : List OperandIndex) :
    FailsWithin NamesNoOperator (checkedInputs rule inputs) := by
  rw [checkedInputs]
  cases rule.ranks with
  | some ranks =>
    by_cases count : inputs.length = ranks.length
    · simp only [count, if_true]
      exact failsWithin_ok inputs
    · simp only [count, if_false]
      exact failsWithin_error trivial
  | none =>
    by_cases count : rule.types.length ≤ inputs.length
    · simp only [count, if_true]
      exact failsWithin_ok _
    · simp only [count, if_false]
      exact failsWithin_error trivial

theorem failsWithin_checkOperand (rule : SupportRule) (tensors : TensorContext) (position : Nat)
    (index : OperandIndex) :
    FailsWithin NamesNoOperator (checkOperand rule tensors position index) := by
  simp only [checkOperand, throw_eq_error, error_bind]
  refine failsWithin_guard trivial ?_
  have looked : FailsWithin NamesNoOperator (Scope.tensor tensors index) :=
    failsWithin_tensor trivial tensors
  apply looked.bind
  intro tensor
  exact failsWithin_guard trivial (failsWithin_guard trivial (failsWithin_guard trivial
    (failsWithin_guard trivial (failsWithin_ok ()))))

theorem failsWithin_checkOperands (rule : SupportRule) (tensors : TensorContext)
    (operands : List OperandIndex) (start : Nat) :
    FailsWithin NamesNoOperator (checkOperands rule tensors start operands) := by
  induction operands generalizing start with
  | nil => exact failsWithin_ok ()
  | cons index rest ih =>
    apply (failsWithin_checkOperand rule tensors start index).bind
    intro _
    exact ih (start + 1)

theorem failsWithin_checkOptions (op : OpCode) (options : BuiltinOptions) :
    FailsWithin NamesNoOperator (checkOptions op options) := by
  unfold checkOptions
  by_cases matching : optionsMatch op options = true
  · rw [if_pos matching]
    cases options with
    | softmax softmax =>
      by_cases one : (softmax.beta == 1) = true
      · simp only [one, if_true]
        exact failsWithin_ok ()
      · simp only [one]
        exact failsWithin_error trivial
    | _ => exact failsWithin_ok ()
  · rw [if_neg matching]
    exact failsWithin_error trivial

theorem unsupportedOperator_iff (op : OpCode) (inputs : List OperandIndex) (options : BuiltinOptions)
    (tensors : TensorContext) :
    (∃ named, check op inputs options tensors = .error (.unsupportedOperator named)) ↔
      ∃ failure, Recipe.ofOpCode op = .error failure := by
  have refused : (∃ failure, Recipe.ofOpCode op = .error failure) ↔ Recipe.ofOpCode? op = none := by
    rw [Recipe.ofOpCode]
    cases Recipe.ofOpCode? op <;> simp
  rw [refused, ← rule?_eq_none, check]
  cases known : rule? op inputs.length with
  | none => simp
  | some rule =>
    have named : FailsWithin NamesNoOperator (do
        let operands ← checkedInputs rule inputs
        checkOperands rule tensors 0 operands
        checkOptions op options) := by
      apply (failsWithin_checkedInputs rule inputs).bind
      intro operands
      apply (failsWithin_checkOperands rule tensors operands 0).bind
      intro _
      exact failsWithin_checkOptions op options
    constructor
    · rintro ⟨other, failed⟩
      exact (named _ failed).elim
    · intro absent
      cases absent

end Support

/-! ## Nodes that pass -/

namespace Builder

/-- Nothing behind the recipe of a node can fail: a node is lowered, or a look-up of its recipe fails, or
the lowering is obstructed. -/
theorem lowerNode_conducts {Fails : Failure → Prop} (builder : Builder) {id : Int32}
    {node : ScheduledNode} {output : OperandIndex} {recipe : Recipe}
    (known : target id node = .ok (output, recipe)) (fits : recipe.Fits node.options)
    {tensors : TensorContext}
    (answers : Scope.Answers Fails ⟨builder.registry, tensors⟩ recipe node.inputs) :
    (∃ after, lowerNode id node tensors builder = .ok () after) ∨
      ∃ failure after, lowerNode id node tensors builder = .error failure after ∧ Fails failure := by
  have conducts : Conducts Fails Graph.HasId
      (recipe.emit ⟨builder.registry, tensors⟩ node.inputs node.options) builder.draft :=
    Recipe.conducts_emit answers fits
  rw [Conducts] at conducts
  cases emitted : recipe.emit ⟨builder.registry, tensors⟩ node.inputs node.options builder.draft with
  | ok result draft =>
    obtain ⟨after, ran, _⟩ := lowerNode_of_emit builder known emitted
    exact .inl ⟨after, ran⟩
  | error failure draft =>
    rw [emitted] at conducts
    obtain ⟨after, ran⟩ := lowerNode_of_error known emitted
    exact .inr ⟨failure, after, ran, conducts.2⟩

theorem lowerNode_of_fits (builder : Builder) {id : Int32} {node : ScheduledNode}
    {output : OperandIndex} {recipe : Recipe} (known : target id node = .ok (output, recipe))
    (fits : recipe.Fits node.options) (tensors : TensorContext) :
    (∃ after, lowerNode id node tensors builder = .ok () after) ∨
      ∃ failure after, lowerNode id node tensors builder = .error failure after ∧ failure.Blocks :=
  lowerNode_conducts builder known fits (Scope.answers_of_missing (fun _ => trivial) fun _ => trivial)

/-- An operator is refused by the check as not supported exactly where it has no recipe; a node that
passes the check, under any id and with an output, is lowered in any builder or fails where an operand is
missing or the lowering is obstructed. -/
theorem check_agrees_with_recipes :
    (∀ op inputs options tensors,
      (∃ named, Support.check op inputs options tensors = .error (.unsupportedOperator named)) ↔
        ∃ failure, Recipe.ofOpCode op = .error failure) ∧
      ∀ (node : ScheduledNode) (tensors : TensorContext) (builder : Builder) (id : Int32),
        Support.check node.op node.inputs node.options tensors = .ok () → 0 ≤ id →
          node.outputs ≠ [] →
            (∃ after, lowerNode id node tensors builder = .ok () after) ∨
              ∃ failure after, lowerNode id node tensors builder = .error failure after ∧
                failure.Blocks := by
  refine ⟨Support.unsupportedOperator_iff, ?_⟩
  intro node tensors builder id accepted valid given
  obtain ⟨output, rest, outputs⟩ := List.exists_cons_of_ne_nil given
  obtain ⟨rule, _, ruled, _⟩ := Support.of_check accepted
  cases found : Recipe.ofOpCode? node.op with
  | none =>
    rw [Support.rule?_eq_none.2 found] at ruled
    cases ruled
  | some recipe =>
    have known : target id node = .ok (output, recipe) :=
      target_eq_ok.2 ⟨valid, by rw [outputs]; rfl, by rw [Recipe.ofOpCode, found]⟩
    have matching := Support.optionsMatch_of_check accepted
    exact lowerNode_of_fits builder known (Support.fits_of_optionsMatch matching found) tensors

def acceptedSum : ScheduledNode where
  id := 0
  op := .builtin .add
  inputs := [0, 1]
  outputs := [2]
  options := .add {}

def acceptedOperand (dims : List Int32) : Tensor where
  tensorType := .float32
  dims

def acceptedTensors : TensorContext :=
  (OperandMap.insert ∅ 0 (acceptedOperand [1, 2])).insert 1 (acceptedOperand [2])

/-- A builder that has both operands of the sum as graph inputs. -/
def acceptedOperands : Builder :=
  (Call.registerInput (acceptedOperand [2]) 1).after
    ((Call.registerInput (acceptedOperand [1, 2]) 0).after {})

/-- A sum that passes the check is lowered where both operands have nodes, and fails where none has. -/
theorem check_agrees_with_recipes_sum :
    Support.check acceptedSum.op acceptedSum.inputs acceptedSum.options acceptedTensors = .ok () ∧
      (∃ after, lowerNode 0 acceptedSum acceptedTensors acceptedOperands = .ok () after) ∧
      ∃ failure after, lowerNode 0 acceptedSum acceptedTensors {} = .error failure after ∧
        failure.Blocks := by
  have accepted : Support.check acceptedSum.op acceptedSum.inputs acceptedSum.options
      acceptedTensors = .ok () := by decide
  have lowers : (Call.lowerNode 0 acceptedSum acceptedTensors).succeeds acceptedOperands = true := by
    decide +kernel
  have fails : (Call.lowerNode 0 acceptedSum acceptedTensors).succeeds {} = false := by
    decide +kernel
  have agree := fun builder => check_agrees_with_recipes.2 acceptedSum acceptedTensors builder 0
    accepted (by decide) (by decide)
  refine ⟨accepted, (agree acceptedOperands).resolve_right ?_, (agree {}).resolve_left ?_⟩
  · rintro ⟨failure, after, ran, _⟩
    rw [Call.succeeds, Call.run, ran] at lowers
    cases lowers
  · rintro ⟨after, ran⟩
    rw [Call.succeeds, Call.run, ran] at fails
    cases fails

end Builder

end PartitionLowering
