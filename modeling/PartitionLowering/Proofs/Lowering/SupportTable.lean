import PartitionLowering.Proofs.Engine.Extents
import PartitionLowering.Proofs.Lowering.Acceptance

/-!
The table of supported nodes.  `Support.table` has a row for each group of operators, with what the row
asks of each operand; `Support.variants` has the options of each operator.  A check accepts what the table
admits and nothing else, over all nodes and all tensors (`check_eq_ok_iff_table`).

A rule keeps its types and its ranks side by side, and a check walks both with one index;
`SupportRule.demand` is the one list of places that they come to.
-/

set_option autoImplicit false

namespace PartitionLowering

namespace Support

/-! ## The table -/

/-- An operand that has a tensor of positive dims whose product is a size. -/
structure Sized (tensors : TensorContext) (index : OperandIndex) (tensor : Tensor) : Prop where
  valid : 0 ≤ index
  known : tensors.get? index = some tensor
  positive : ∀ dim ∈ tensor.dims, 0 < dim
  small : tensor.hostShape.prod < Size.bound

/-- What a row with ranks asks of an operand; a place without types takes any. -/
structure RankedPlace where
  types : Option (List TensorType)
  ranks : List Nat
  deriving DecidableEq

/-- What a row asks of the operands: all of them, one for each place, or those at its places. -/
inductive Demand
  | ranked (places : List RankedPlace)
  | typed (places : List (List TensorType))
  deriving DecidableEq

def RankedPlace.Takes (tensors : TensorContext) (place : RankedPlace) (index : OperandIndex) : Prop :=
  ∃ tensor, Sized tensors index tensor ∧
    (∀ types, place.types = some types → tensor.tensorType ∈ types) ∧ tensor.rank ∈ place.ranks

def TypeTakes (tensors : TensorContext) (types : List TensorType) (index : OperandIndex) : Prop :=
  ∃ tensor, Sized tensors index tensor ∧ tensor.tensorType ∈ types ∧ 1 ≤ tensor.rank

def Demand.Admits (tensors : TensorContext) (inputs : List OperandIndex) : Demand → Prop
  | .ranked places =>
    inputs.length = places.length ∧ List.Forall₂ (RankedPlace.Takes tensors) places inputs
  | .typed places =>
    places.length ≤ inputs.length ∧
      List.Forall₂ (TypeTakes tensors) places (inputs.take places.length)

inductive Counts
  | any
  | exactly (count : Nat)
  | otherThan (count : Nat)
  deriving DecidableEq

def Counts.Hold : Counts → Nat → Prop
  | .any, _ => True
  | .exactly count, given => given = count
  | .otherThan count, given => given ≠ count

instance (counts : Counts) (given : Nat) : Decidable (counts.Hold given) :=
  match counts with
  | .any => .isTrue trivial
  | .exactly count => inferInstanceAs (Decidable (given = count))
  | .otherThan count => inferInstanceAs (Decidable (given ≠ count))

structure Row where
  operators : List OpCode
  counts : Counts
  demand : Demand
  deriving DecidableEq

def Row.Concerns (row : Row) (op : OpCode) (count : Nat) : Prop :=
  op ∈ row.operators ∧ row.counts.Hold count

instance (row : Row) (op : OpCode) (count : Nat) : Decidable (row.Concerns op count) :=
  inferInstanceAs (Decidable (_ ∧ _))

def table : List Row :=
  [⟨[.builtin .add, .builtin .mul], .any,
      .ranked [⟨some [.float32], [1, 2, 3, 4]⟩, ⟨some [.float32], [1, 2, 3, 4]⟩]⟩,
    ⟨[.builtin .averagePool2d, .builtin .maxPool2d], .any, .typed [[.float32]]⟩,
    ⟨[.builtin .conv2d, .builtin .depthwiseConv2d], .exactly 2,
      .ranked [⟨some [.float32], [4]⟩, ⟨some [.float32], [4]⟩]⟩,
    ⟨[.builtin .conv2d, .builtin .depthwiseConv2d], .otherThan 2,
      .ranked [⟨some [.float32], [4]⟩, ⟨some [.float32], [4]⟩, ⟨some [.float32], [1]⟩]⟩,
    ⟨[.builtin .concatenation], .any,
      .ranked [⟨some [.float32], [4]⟩, ⟨some [.float32], [4]⟩]⟩,
    ⟨[.custom "Convolution2DTransposeBias"], .any,
      .ranked [⟨some [.float32], [4]⟩, ⟨some [.float32], [4]⟩, ⟨some [.float32], [1]⟩]⟩,
    ⟨[.builtin .dequantize], .any, .typed [[.float16]]⟩,
    ⟨[.builtin .resizeBilinear, .builtin .relu, .builtin .relu6, .builtin .logistic,
        .builtin .hardSwish, .builtin .tanh], .any, .typed [[.float32]]⟩,
    ⟨[.builtin .softmax], .any, .typed [[.float32]]⟩,
    ⟨[.builtin .reshape], .any,
      .ranked [⟨some [.float32], [1, 2, 3, 4]⟩, ⟨some [.int32], [1]⟩]⟩,
    ⟨[.builtin .mean], .any, .ranked [⟨some [.float32], [4]⟩, ⟨none, [1]⟩]⟩,
    ⟨[.builtin .transposeConv], .exactly 3,
      .ranked [⟨some [.int32], [1]⟩, ⟨some [.float32], [4]⟩, ⟨some [.float32], [4]⟩]⟩,
    ⟨[.builtin .transposeConv], .otherThan 3,
      .ranked [⟨some [.int32], [1]⟩, ⟨some [.float32], [4]⟩, ⟨some [.float32], [4]⟩,
        ⟨some [.float32], [1]⟩]⟩]

def variants : OpCode → List String
  | .custom _ => ["transpose_conv"]
  | .builtin .averagePool2d | .builtin .maxPool2d => ["pool2d"]
  | .builtin .mean => ["reducer"]
  | .builtin .reshape => ["reshape", "none"]
  | .builtin .relu | .builtin .relu6 | .builtin .tanh | .builtin .logistic | .builtin .hardSwish
  | .builtin .dequantize => ["none"]
  | .builtin operator => [operator.key]

/-! ## Operands -/

theorem tensor_eq_ok_iff {tensors : TensorContext} {index : OperandIndex} {tensor : Tensor} :
    Scope.tensor tensors index = .ok tensor ↔ tensors.get? index = some tensor := by
  rw [Scope.tensor]
  cases tensors.get? index <;> simp

/-- The dims of a tensor are positive and their product is a size. -/
theorem degenerate_iff (tensor : Tensor) :
    ¬((∃ dim ∈ tensor.dims, dim ≤ 0) ∨ tensor.elementCount? = none) ↔
      (∀ dim ∈ tensor.dims, 0 < dim) ∧ tensor.hostShape.prod < Size.bound := by
  have signs : (¬∃ dim ∈ tensor.dims, dim ≤ 0) ↔ ∀ dim ∈ tensor.dims, 0 < dim := by
    simp [Int32.not_le]
  rw [not_or, signs]
  refine and_congr_right fun positive => ?_
  apply Size.product?_ne_none
  intro extent member
  obtain ⟨dim, inside, rfl⟩ := List.mem_map.1 member
  have high : 0 < dim.toInt := Int32.lt_iff_toInt_lt.1 (positive dim inside)
  omega

theorem none_foreign_iff {α : Type} [DecidableEq α] {value : α} {allowed : Option (List α)} :
    ¬allowed.any (value ∉ ·) = true ↔ ∀ values, allowed = some values → value ∈ values := by
  cases allowed <;> simp

theorem checkOperand_eq_ok {rule : SupportRule} {tensors : TensorContext} {position : Nat}
    {index : OperandIndex} :
    checkOperand rule tensors position index = .ok () ↔
      ∃ tensor, Sized tensors index tensor ∧
        (∀ types, rule.types[position]? = some types → tensor.tensorType ∈ types) ∧
        (∀ ranks, rule.ranks.bind (·[position]?) = some ranks → tensor.rank ∈ ranks) ∧
        1 ≤ tensor.rank := by
  simp only [checkOperand, throw_eq_error, error_bind, guard_eq_ok, bind_eq_ok, tensor_eq_ok_iff,
    degenerate_iff, none_foreign_iff]
  constructor
  · rintro ⟨negative, tensor, known, typed, ranked, scalar, ⟨positive, small⟩, _⟩
    exact ⟨tensor, ⟨Int32.not_lt.1 negative, known, positive, small⟩, typed, ranked,
      Nat.pos_of_ne_zero scalar⟩
  · rintro ⟨tensor, sized, typed, ranked, given⟩
    exact ⟨Int32.not_lt.2 sized.valid, tensor, sized.known, typed, ranked, Nat.ne_of_gt given,
      ⟨sized.positive, sized.small⟩, rfl⟩

theorem checkOperands_eq_ok {rule : SupportRule} {tensors : TensorContext}
    {operands : List OperandIndex} {start : Nat} :
    checkOperands rule tensors start operands = .ok () ↔
      ∀ position index, operands[position]? = some index →
        checkOperand rule tensors (start + position) index = .ok () := by
  refine ⟨of_checkOperands, ?_⟩
  induction operands generalizing start with
  | nil => exact fun _ => rfl
  | cons first rest ih =>
    intro each
    have here : checkOperand rule tensors start first = .ok () := each 0 first rfl
    rw [checkOperands, here, ok_bind]
    apply ih
    intro position index here
    rw [Nat.add_assoc, Nat.add_comm 1 position]
    exact each (position + 1) index here

/-! ## Rules -/

def demand (rule : SupportRule) : Demand :=
  match rule.ranks with
  | some ranks => .ranked (ranks.mapIdx fun position allowed => ⟨rule.types[position]?, allowed⟩)
  | none => .typed rule.types

theorem forall₂_iff_at {α β : Type} {Related : α → β → Prop} {places : List α} {indices : List β}
    (same : places.length = indices.length) :
    List.Forall₂ Related places indices ↔
      ∀ (position : Nat) (place : α) (index : β), places[position]? = some place →
        indices[position]? = some index → Related place index := by
  rw [List.forall₂_iff_get]
  constructor
  · rintro ⟨_, each⟩ position place index here there
    obtain ⟨below, rfl⟩ := List.getElem?_eq_some_iff.1 here
    obtain ⟨below', rfl⟩ := List.getElem?_eq_some_iff.1 there
    exact each position below below'
  · intro each
    refine ⟨same, fun position below below' => ?_⟩
    exact each position _ _ (List.getElem?_eq_getElem below) (List.getElem?_eq_getElem below')

theorem exists_at {α β : Type} {places : List α} {indices : List β}
    (same : places.length = indices.length) {position : Nat} {index : β}
    (there : indices[position]? = some index) : ∃ place, places[position]? = some place := by
  obtain ⟨below, _⟩ := List.getElem?_eq_some_iff.1 there
  exact ⟨_, List.getElem?_eq_getElem (same ▸ below)⟩

section Demands

variable {rule : SupportRule} {tensors : TensorContext} {inputs : List OperandIndex}

/-- A rule with ranks, none of which is zero. -/
theorem admits_ranked {ranks : List (List Nat)} (ruled : rule.ranks = some ranks)
    (positive : ∀ allowed ∈ ranks, 0 ∉ allowed) :
    (demand rule).Admits tensors inputs ↔
      inputs.length = ranks.length ∧ checkOperands rule tensors 0 inputs = .ok () := by
  rw [demand, ruled, Demand.Admits, List.length_mapIdx, checkOperands_eq_ok]
  refine and_congr_right fun count => ?_
  have lengths : (ranks.mapIdx fun position allowed =>
      (⟨rule.types[position]?, allowed⟩ : RankedPlace)).length = inputs.length := by
    rw [List.length_mapIdx, count]
  simp only [forall₂_iff_at lengths, List.getElem?_mapIdx, Nat.zero_add, checkOperand_eq_ok, ruled,
    Option.bind_some]
  constructor
  · intro each position index here
    obtain ⟨allowed, listed⟩ := exists_at count.symm here
    obtain ⟨tensor, sized, typed, ranked⟩ := each position _ index (by rw [listed]; rfl) here
    refine ⟨tensor, sized, typed, ?_, ?_⟩
    · intro others known
      rw [listed] at known
      cases known
      exact ranked
    · apply Nat.pos_of_ne_zero
      intro scalar
      rw [scalar] at ranked
      exact positive allowed (List.mem_of_getElem? listed) ranked
  · intro each position place index listed here
    obtain ⟨allowed, found, rfl⟩ := Option.map_eq_some_iff.1 listed
    obtain ⟨tensor, sized, typed, ranked, _⟩ := each position index here
    exact ⟨tensor, sized, typed, ranked allowed found⟩

theorem admits_typed (ruled : rule.ranks = none) :
    (demand rule).Admits tensors inputs ↔
      rule.types.length ≤ inputs.length ∧
        checkOperands rule tensors 0 (inputs.take rule.types.length) = .ok () := by
  rw [demand, ruled, Demand.Admits, checkOperands_eq_ok]
  refine and_congr_right fun count => ?_
  have lengths : rule.types.length = (inputs.take rule.types.length).length := by
    rw [List.length_take, Nat.min_eq_left count]
  simp only [forall₂_iff_at lengths, Nat.zero_add, checkOperand_eq_ok, ruled, Option.bind_none]
  constructor
  · intro each position index here
    obtain ⟨types, listed⟩ := exists_at lengths here
    obtain ⟨tensor, sized, typed, given⟩ := each position types index listed here
    refine ⟨tensor, sized, ?_, nofun, given⟩
    intro others known
    rw [listed] at known
    cases known
    exact typed
  · intro each position types index listed here
    obtain ⟨tensor, sized, typed, _, given⟩ := each position index here
    exact ⟨tensor, sized, typed types listed, given⟩

/-- The operands of a node pass its rule where the places of the rule admit them. -/
theorem admits_demand (positive : ∀ ranks ∈ rule.ranks, ∀ allowed ∈ ranks, 0 ∉ allowed) :
    (demand rule).Admits tensors inputs ↔
      ∃ operands, checkedInputs rule inputs = .ok operands ∧
        checkOperands rule tensors 0 operands = .ok () := by
  rw [checkedInputs]
  cases ruled : rule.ranks with
  | some ranks =>
    rw [admits_ranked ruled (positive ranks ruled)]
    by_cases count : inputs.length = ranks.length
    · simp [count]
    · simp [count]
  | none =>
    rw [admits_typed ruled]
    by_cases count : rule.types.length ≤ inputs.length
    · simp [count]
    · simp [count]

end Demands

theorem positive_ranks {op : OpCode} {count : Nat} {rule : SupportRule}
    (ruled : rule? op count = some rule) : ∀ ranks ∈ rule.ranks, ∀ allowed ∈ ranks, 0 ∉ allowed := by
  have rules : ∀ rule ∈ [binaryRule, unaryRule, convRule, convBiasRule, concatenationRule,
      dequantizeRule, reshapeRule, meanRule, transposeConvRule, transposeConvBiasRule],
      ∀ ranks ∈ rule.ranks, ∀ allowed ∈ ranks, 0 ∉ allowed := by decide
  apply rules
  cases op with
  | custom name =>
    rw [rule?] at ruled
    split_ifs at ruled
    cases ruled
    decide
  | builtin operator =>
    cases operator with
    | conv2d | depthwiseConv2d | transposeConv =>
      cases ruled
      split_ifs <;> decide
    | _ => cases ruled <;> decide

/-- The rows for an operator have the places of its rule. -/
theorem rows_eq (op : OpCode) (count : Nat) :
    (table.filter fun row => row.Concerns op count).map Row.demand =
      ((rule? op count).map demand).toList := by
  cases op with
  | custom name =>
    by_cases known : name = "Convolution2DTransposeBias"
    · subst known
      rfl
    · have unknown : rule? (.custom name) count = none := if_neg known
      simp [table, Row.Concerns, known, unknown]
  | builtin operator =>
    cases operator with
    | conv2d | depthwiseConv2d =>
      by_cases two : count = 2
      · subst two
        rfl
      · simp [table, Row.Concerns, Counts.Hold, rule?, two, demand, convBiasRule]
    | transposeConv =>
      by_cases three : count = 3
      · subst three
        rfl
      · simp [table, Row.Concerns, Counts.Hold, rule?, three, demand, transposeConvBiasRule]
    | _ => rfl

theorem exists_row_iff {op : OpCode} {count : Nat} {asked : Demand} :
    (∃ row ∈ table, row.Concerns op count ∧ row.demand = asked) ↔
      ∃ rule, rule? op count = some rule ∧ demand rule = asked := by
  have listed : asked ∈ (table.filter fun row => row.Concerns op count).map Row.demand ↔
      asked ∈ ((rule? op count).map demand).toList := by rw [rows_eq]
  simpa [and_assoc] using listed

/-! ## Options -/

theorem optionsMatch_eq (op : OpCode) (options : BuiltinOptions) :
    optionsMatch op options = (variants op).contains options.key := by
  cases op with
  | custom name => cases options <;> rfl
  | builtin operator => cases operator <;> cases options <;> rfl

theorem checkOptions_eq_ok {op : OpCode} {options : BuiltinOptions} :
    checkOptions op options = .ok () ↔
      options.key ∈ variants op ∧
        ∀ softmax, options = .softmax softmax → (softmax.beta == 1) = true := by
  rw [← List.contains_iff_mem, ← optionsMatch_eq]
  unfold checkOptions
  by_cases matching : optionsMatch op options = true
  · cases options with
    | softmax softmax =>
      by_cases one : (softmax.beta == 1) = true
      · simp [matching, one]
      · simp [matching, one]
    | _ => simp [matching]
  · simp [matching]

/-! ## Nodes -/

theorem check_eq_ok {op : OpCode} {inputs : List OperandIndex} {options : BuiltinOptions}
    {tensors : TensorContext} :
    check op inputs options tensors = .ok () ↔
      (∃ rule, rule? op inputs.length = some rule ∧ (demand rule).Admits tensors inputs) ∧
        checkOptions op options = .ok () := by
  rw [check]
  cases ruled : rule? op inputs.length with
  | none => simp
  | some rule =>
    have passed : (demand rule).Admits tensors inputs ↔ ∃ operands,
        checkedInputs rule inputs = .ok operands ∧ checkOperands rule tensors 0 operands = .ok () :=
      admits_demand (positive_ranks ruled)
    constructor
    · intro accepted
      obtain ⟨operands, counted, rest⟩ := bind_eq_ok.1 accepted
      obtain ⟨_, checked, matching⟩ := bind_eq_ok.1 rest
      exact ⟨⟨rule, rfl, passed.2 ⟨operands, counted, checked⟩⟩, matching⟩
    · rintro ⟨⟨_, same, admitted⟩, matching⟩
      cases same
      obtain ⟨operands, counted, checked⟩ := passed.1 admitted
      exact bind_eq_ok.2 ⟨operands, counted, bind_eq_ok.2 ⟨(), checked, matching⟩⟩

/-- A check accepts exactly what the table admits: the operator has a row for its count of inputs, the
operands are as the row asks, the options are of a kind that the operator takes, and a softmax has a `beta`
of one. -/
theorem check_eq_ok_iff_table (op : OpCode) (inputs : List OperandIndex) (options : BuiltinOptions)
    (tensors : TensorContext) :
    check op inputs options tensors = .ok () ↔
      (∃ row ∈ table, row.Concerns op inputs.length ∧ row.demand.Admits tensors inputs) ∧
        options.key ∈ variants op ∧
          ∀ softmax, options = .softmax softmax → (softmax.beta == 1) = true := by
  rw [check_eq_ok, checkOptions_eq_ok]
  refine and_congr_left fun _ => ?_
  constructor
  · rintro ⟨rule, ruled, admitted⟩
    obtain ⟨row, listed, concerns, same⟩ := exists_row_iff.2 ⟨rule, ruled, rfl⟩
    exact ⟨row, listed, concerns, same ▸ admitted⟩
  · rintro ⟨row, listed, concerns, admitted⟩
    obtain ⟨rule, ruled, same⟩ := exists_row_iff.1 ⟨row, listed, concerns, rfl⟩
    exact ⟨rule, ruled, same ▸ admitted⟩

end Support

end PartitionLowering
