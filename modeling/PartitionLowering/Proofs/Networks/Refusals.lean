import PartitionLowering.Proofs.Lowering.Agreement
import PartitionLowering.Proofs.Lowering.WeightPayloads
import PartitionLowering.Proofs.Networks.SingleNode

/-!
What a check promises of the lowering behind it.  Where the host gives all operands of a node that passes
(`GivenOperand`), the lowering succeeds, or is obstructed, or is refused for a reason that can be told
beforehand (`ScheduledNode.refusal?`): an operand that no rule speaks of, or a rule without ranks, lets
more pass than registration does.  Under a rule with ranks there is no such reason.
-/

set_option autoImplicit false

namespace PartitionLowering

/-! ## Operands that the host gives -/

/-- Weights with a payload of the right size, or a graph input of countable dims. -/
structure GivenOperand (partition : Partition) (tensors : TensorContext) (index : OperandIndex)
    (tensor : Tensor) : Prop where
  known : tensors.get? index = some tensor
  typed : ∃ elementType, Layout.elementType tensor.tensorType = .ok elementType
  positive : ∀ dim ∈ tensor.dims, 0 < dim
  weights : tensor.allocation = .mmapRo →
    ∃ payload, tensor.data = some payload ∧ tensor.byteSize? = some payload.length
  input : tensor.allocation ≠ .mmapRo →
    index ∈ partition.inputs ∧ tensor.dims ≠ [] ∧ tensor.hostShape.prod < Size.bound

/-- What registration has against an operand that the host gives: weights without dims, and graph inputs
of more than four. -/
def Tensor.refusal? (tensor : Tensor) (index : OperandIndex) : Option Failure :=
  if tensor.allocation = .mmapRo then
    if tensor.dims = [] then some (.invalidArgument (.constantWithoutDims index)) else none
  else if 4 < tensor.rank then some (.unsupportedRank tensor.rank)
  else none

namespace ScheduledNode

def refusedOperand? (node : ScheduledNode) (tensors : TensorContext) : Option Failure :=
  node.neededInputs.findSome? fun index => (tensors.get? index).bind (·.refusal? index)

/-- A resize cannot leave out its sizes. -/
def missingSizes? (node : ScheduledNode) : Option Failure :=
  if node.op = .builtin .resizeBilinear then
    (node.inputs[1]?.filter (· < 0)).map .missingOperand
  else none

/-- Why a node that passes the check is refused nevertheless. -/
def refusal? (node : ScheduledNode) (tensors : TensorContext) : Option Failure :=
  (node.refusedOperand? tensors).or node.missingSizes?

end ScheduledNode

namespace GivenOperand

variable {partition : Partition} {tensors : TensorContext} {index : OperandIndex} {tensor : Tensor}
  {builder : Builder} {failure : Failure} (given : GivenOperand partition tensors index tensor)

include given

theorem provided : Provided partition tensors index := by
  by_cases kept : tensor.allocation = .mmapRo
  · exact .inr ⟨tensor, given.known, kept⟩
  · exact .inl (given.input kept).1

theorem refusal_eq {node : ScheduledNode} (needed : index ∈ node.neededInputs)
    (free : node.refusedOperand? tensors = none) : tensor.refusal? index = none := by
  have each := List.findSome?_eq_none_iff.1 free index needed
  rwa [given.known, Option.bind_some] at each

theorem counted : tensor.elementCount? ≠ none := by
  by_cases kept : tensor.allocation = .mmapRo
  · obtain ⟨payload, _, sized⟩ := given.weights kept
    intro uncounted
    rw [Tensor.byteSize?, uncounted] at sized
    cases sized
  · have positive : tensor.hostShape.Positive :=
      Builder.positive_of_layout (Layout.shape_eq_ok.2 ⟨given.positive, rfl⟩)
    exact (Size.product?_ne_none positive).2 (given.input kept).2.2

theorem admitted (valid : 0 ≤ index) (dims : tensor.dims ≠ []) :
    Support.Admitted tensors index tensor :=
  ⟨valid, given.known, dims, given.positive, given.counted⟩

/-- An operand against which registration has nothing has dims. -/
theorem dims_ne_nil (free : tensor.refusal? index = none) : tensor.dims ≠ [] := by
  by_cases kept : tensor.allocation = .mmapRo
  · intro scalar
    simp [Tensor.refusal?, kept, scalar] at free
  · exact (given.input kept).2.1

theorem obtains (valid : 0 ≤ index) (free : tensor.refusal? index = none) :
    partition.Obtains tensors index := by
  have admitted := given.admitted valid (given.dims_ne_nil free)
  obtain ⟨elementType, typed⟩ := given.typed
  by_cases kept : tensor.allocation = .mmapRo
  · obtain ⟨payload, held, sized⟩ := given.weights kept
    refine (obtains_weights given.known kept).2 ⟨elementType, tensor.hostShape, payload,
      Builder.constantContent_of_admitted admitted held typed sized, ?_⟩
    rwa [tensor.byteSize?_eq typed] at sized
  · have low : tensor.rank ≤ 4 := by
      by_contra high
      simp [Tensor.refusal?, kept, Nat.not_le.1 high] at free
    exact (obtains_input admitted kept (given.input kept).1).2 ⟨(elementType, tensor.hostShape),
      Builder.inputType_eq_ok.2 ⟨valid, admitted.given, low, typed, admitted.shape⟩⟩

/-- A refused operand that has no node yet cannot be registered. -/
theorem materialize_refused (valid : 0 ≤ index) (refused : tensor.refusal? index = some failure)
    (unbound : builder.registry.node? index = none) :
    ∃ after, partition.materialize tensors index builder = .error failure after := by
  have nonnegative : ¬index < 0 := Int32.not_lt.2 valid
  unfold Partition.materialize
  rw [run_bind_of_ok (run_get builder)]
  simp only [contains_eq_false.2 unbound, Bool.false_eq_true, if_false]
  rw [run_bind_of_ok (run_lift_ok (tensor_eq_ok.2 given.known) builder)]
  by_cases kept : tensor.allocation = .mmapRo
  · by_cases scalar : tensor.dims = []
    · simp only [Tensor.refusal?, kept, scalar, if_true, Option.some.injEq] at refused
      subst refused
      have failed : Builder.constantContent tensor index =
          .error (.invalidArgument (.constantWithoutDims index)) := by
        simp [Builder.constantContent, nonnegative, scalar]
      simp only [kept, if_true]
      unfold Builder.registerConstant
      rw [run_bind_of_error (run_bind_of_error (run_lift_error failed builder) _)]
      exact ⟨_, rfl⟩
    · simp [Tensor.refusal?, kept, scalar] at refused
  · obtain ⟨member, dims, _⟩ := given.input kept
    by_cases high : 4 < tensor.rank
    · simp only [Tensor.refusal?, kept, high, if_true, if_false, Option.some.injEq] at refused
      subst refused
      have failed : Builder.inputType tensor index = .error (.unsupportedRank tensor.rank) := by
        simp [Builder.inputType, nonnegative, dims, high]
      simp only [kept, member, if_true, if_false]
      unfold Builder.registerInput
      rw [run_bind_of_error (run_bind_of_error (run_lift_error failed builder) _)]
      exact ⟨_, rfl⟩
    · simp [Tensor.refusal?, kept, high] at refused

end GivenOperand

/-! ## What a rule leaves open -/

theorem Recipe.ofOpCode?_eq_resizeBilinear {op : OpCode} :
    ofOpCode? op = some .resizeBilinear ↔ op = .builtin .resizeBilinear := by
  cases op with
  | custom name =>
    rw [ofOpCode?]
    split_ifs <;> simp
  | builtin operator => cases operator <;> simp [ofOpCode?, ofBuiltin?]

namespace Support

variable {op : OpCode} {inputs : List OperandIndex} {options : BuiltinOptions} {tensors : TensorContext}
  {recipe : Recipe} {rule : SupportRule} {count position : Nat}

theorem rank_le_four (ruled : rule? op count = some rule) :
    ∀ ranks ∈ rule.ranks, ∀ allowed ∈ ranks, ∀ rank ∈ allowed, rank ≤ 4 := by
  cases op with
  | custom name =>
    rw [rule?] at ruled
    split_ifs at ruled
    cases ruled
    decide
  | builtin operator =>
    cases operator with
    | conv2d | depthwiseConv2d | transposeConv =>
      cases ruled
      split_ifs <;> decide
    | _ => cases ruled <;> decide

/-- A rule without ranks speaks of all operands that are looked up, but for the sizes of a resize. -/
theorem position_lt_of_unranked (ruled : rule? op count = some rule) (unranked : rule.ranks = none)
    (known : Recipe.ofOpCode? op = some recipe) (reads : recipe.Reads position)
    (plain : recipe = .resizeBilinear → position ≠ 1) : position < rule.types.length := by
  cases op with
  | custom name =>
    rw [rule?] at ruled
    split_ifs at ruled
    cases ruled
    cases unranked
  | builtin operator =>
    cases operator with
    | conv2d | depthwiseConv2d | transposeConv =>
      cases ruled
      split_ifs at unranked <;> cases unranked
    | resizeBilinear =>
      cases ruled
      cases known
      have two : position < 2 := reads
      have other := plain rfl
      change position < 1
      omega
    | _ =>
      cases ruled <;> cases known <;> first
        | exact Nat.lt_one_iff.2 reads
        | cases unranked

/-- A check that passes has found an operand that is looked up there. -/
theorem valid_of_reads (accepted : check op inputs options tensors = .ok ())
    (known : Recipe.ofOpCode? op = some recipe) (reads : recipe.Reads position)
    (plain : recipe = .resizeBilinear → position ≠ 1) {index : OperandIndex}
    (here : inputs[position]? = some index) : 0 ≤ index := by
  obtain ⟨rule, operands, ruled, checked, each, _⟩ := of_check accepted
  have kept : operands[position]? = some index := by
    rw [checkedInputs] at checked
    cases ranked : rule.ranks with
    | some ranks =>
      simp only [ranked] at checked
      split_ifs at checked
      cases checked
      exact here
    | none =>
      simp only [ranked] at checked
      split_ifs at checked
      cases checked
      rw [List.getElem?_take_of_lt (position_lt_of_unranked ruled ranked known reads plain)]
      exact here
  obtain ⟨tensor, admitted, _⟩ := of_checkOperand (each position index kept)
  exact admitted.valid

theorem exists_recipe (accepted : check op inputs options tensors = .ok ()) :
    ∃ recipe, Recipe.ofOpCode? op = some recipe := by
  obtain ⟨rule, _, ruled, _⟩ := of_check accepted
  apply Option.ne_none_iff_exists'.1
  intro none
  rw [rule?_eq_none.2 none] at ruled
  cases ruled

end Support

/-! ## Registration -/

section Registration

variable {partition : Partition} {tensors : TensorContext} {failure : Failure}

theorem materializeAll_refused {earlier later : List OperandIndex} {index : OperandIndex}
    {between last : Builder} (refused : partition.materialize tensors index between = .error failure last) :
    ∀ {builder : Builder} {fed : List OperandIndex},
      partition.materializeAll tensors earlier builder = .ok fed between →
      partition.materializeAll tensors (earlier ++ index :: later) builder = .error failure last := by
  induction earlier with
  | nil =>
    intro builder fed ran
    cases ran
    rw [List.nil_append, Partition.materializeAll, run_bind_of_error refused]
  | cons first rest ih =>
    intro builder fed ran
    obtain ⟨_, next, here, ran⟩ := run_bind_eq_ok.1 ran
    obtain ⟨_, _, others, last⟩ := run_bind_eq_ok.1 ran
    cases last
    rw [List.cons_append, Partition.materializeAll, run_bind_of_ok here, run_bind_of_error (ih others)]

theorem supplied_of_free {indices : List OperandIndex}
    (free : ∀ index ∈ indices, 0 ≤ index ∧
      ∃ tensor, GivenOperand partition tensors index tensor ∧ tensor.refusal? index = none) :
    ∃ fed between, partition.materializeAll tensors indices {} = .ok fed between ∧
      Supplied partition tensors indices between := by
  have obtains : ∀ index ∈ indices, Environment.empty.tree index = none →
      partition.Obtains tensors index := by
    intro index member _
    obtain ⟨valid, tensor, given, none⟩ := free index member
    exact given.obtains valid none
  have admits : ∀ index ∈ indices, ∃ tensor, Support.Admitted tensors index tensor := by
    intro index member
    obtain ⟨valid, tensor, given, none⟩ := free index member
    exact ⟨tensor, given.admitted valid (given.dims_ne_nil none)⟩
  obtain ⟨fed, between, registered⟩ := Builder.denotes_empty.materializeAll_ok obtains
  exact ⟨fed, between, registered, by simpa using supplied_empty.materializeAll admits registered⟩

end Registration

/-! ## The node -/

section Nodes

variable {partition : Partition} {tensors : TensorContext} {node : ScheduledNode} {recipe : Recipe}
  {builder : Builder} {failure : Failure} {position : Nat} {index : OperandIndex}

theorem materializeAll_of_refusedOperand
    (given : ∀ index ∈ node.inputs, 0 ≤ index → ∃ tensor, GivenOperand partition tensors index tensor)
    (refused : node.refusedOperand? tensors = some failure) :
    ∃ after, partition.materializeAll tensors node.neededInputs {} = .error failure after := by
  obtain ⟨earlier, index, later, split, here, before⟩ := List.findSome?_eq_some_iff.1 refused
  have needed : ∀ other ∈ earlier ++ index :: later,
      0 ≤ other ∧ ∃ tensor, GivenOperand partition tensors other tensor := by
    intro other member
    obtain ⟨inside, valid⟩ := mem_of_mem_neededInputs (split ▸ member)
    exact ⟨valid, given other inside valid⟩
  have free : ∀ other ∈ earlier, 0 ≤ other ∧
      ∃ tensor, GivenOperand partition tensors other tensor ∧ tensor.refusal? other = none := by
    intro other member
    obtain ⟨valid, tensor, given⟩ := needed other (List.mem_append_left _ member)
    have nothing := before other member
    rw [given.known, Option.bind_some] at nothing
    exact ⟨valid, tensor, given, nothing⟩
  obtain ⟨valid, tensor, given⟩ := needed index (by simp)
  rw [given.known, Option.bind_some] at here
  obtain ⟨fed, between, registered, supplied⟩ := supplied_of_free free
  -- the refused operand is none of those before it, which have been registered
  have unbound : between.registry.node? index = none := by
    cases held : between.registry.node? index with
    | none => rfl
    | some id =>
      obtain ⟨member, _⟩ := (supplied.bound index).1 ⟨id, held⟩
      have nothing := before index member
      rw [given.known, Option.bind_some, here] at nothing
      cases nothing
  obtain ⟨after, failed⟩ := given.materialize_refused valid here unbound
  exact ⟨after, by rw [split]; exact materializeAll_refused failed registered⟩

theorem supplied_of_given
    (given : ∀ index ∈ node.inputs, 0 ≤ index → ∃ tensor, GivenOperand partition tensors index tensor)
    (free : node.refusedOperand? tensors = none) :
    ∃ fed between, partition.materializeAll tensors node.neededInputs {} = .ok fed between ∧
      Supplied partition tensors node.neededInputs between := by
  apply supplied_of_free
  intro index needed
  obtain ⟨inside, valid⟩ := mem_of_mem_neededInputs needed
  obtain ⟨tensor, given⟩ := given index inside valid
  exact ⟨valid, tensor, given, given.refusal_eq needed free⟩

/-- An operand whose node is looked up has been registered. -/
theorem Supplied.node_of_read (supplied : Supplied partition tensors node.neededInputs builder)
    (given : ∀ index ∈ node.inputs, 0 ≤ index → ∃ tensor, GivenOperand partition tensors index tensor)
    (known : Recipe.ofOpCode? node.op = some recipe) (reads : recipe.ReadsNode position)
    (here : node.inputs[position]? = some index) (valid : 0 ≤ index) :
    ∃ id, builder.registry.node index = .ok id := by
  have needed : node.op = .builtin .transposeConv → 0 < position := by
    intro transposed
    rw [transposed] at known
    cases known
    exact reads
  obtain ⟨tensor, given⟩ := given index (List.mem_of_getElem? here) valid
  obtain ⟨id, held⟩ := (supplied.bound index).2 ⟨mem_neededInputs here valid needed, given.provided⟩
  exact ⟨id, Registry.node_eq_ok.2 held⟩

theorem Supplied.answers (supplied : Supplied partition tensors node.neededInputs builder)
    (given : ∀ index ∈ node.inputs, 0 ≤ index → ∃ tensor, GivenOperand partition tensors index tensor)
    (known : Recipe.ofOpCode? node.op = some recipe)
    (accepted : Support.check node.op node.inputs node.options tensors = .ok ())
    (sized : node.missingSizes? = none) :
    Scope.Answers (∃ obstacle, · = .obstructed obstacle) ⟨builder.registry, tensors⟩ recipe
      node.inputs := by
  have found : ∀ {position index}, recipe.Reads position → node.inputs[position]? = some index →
      0 ≤ index := by
    intro position index reads here
    by_cases sizes : recipe = .resizeBilinear ∧ position = 1
    · obtain ⟨rfl, rfl⟩ := sizes
      simpa [ScheduledNode.missingSizes?, Recipe.ofOpCode?_eq_resizeBilinear.1 known, here] using sized
    · exact Support.valid_of_reads accepted known reads (fun same one => sizes ⟨same, one⟩) here
  refine ⟨fun obstacle => ⟨obstacle, rfl⟩, ?_, ?_, ?_⟩
  · intro position reads
    rw [Scope.input, Scope.operand]
    cases here : node.inputs[position]? with
    | none => exact failsWithin_error ⟨_, rfl⟩
    | some index =>
      have valid := found reads.reads here
      obtain ⟨id, held⟩ := supplied.node_of_read given known reads here valid
      simp only [ok_bind, Int32.not_lt.2 valid, if_false, held]
      exact failsWithin_ok id
  · intro position reads
    rw [Scope.optionalInput]
    cases here : node.inputs[position]? with
    | none => exact failsWithin_ok none
    | some index =>
      have valid := found reads.reads here
      obtain ⟨id, held⟩ := supplied.node_of_read given known reads here valid
      simp only [valid, if_true, held]
      exact failsWithin_ok (some id)
  · intro position index reads here
    obtain ⟨tensor, given⟩ := given index (List.mem_of_getElem? here) (found reads here)
    rw [tensor_eq_ok.2 given.known]
    exact failsWithin_ok tensor

/-- Without its sizes a resize is refused once its data stand. -/
theorem Supplied.lowerNode_unsized (supplied : Supplied partition tensors node.neededInputs builder)
    (given : ∀ index ∈ node.inputs, 0 ≤ index → ∃ tensor, GivenOperand partition tensors index tensor)
    (accepted : Support.check node.op node.inputs node.options tensors = .ok ())
    {output : OperandIndex} (target : Builder.target node.id node = .ok (output, recipe))
    (refused : node.missingSizes? = some failure) :
    ∃ after, Builder.lowerNode node.id node tensors builder = .error failure after := by
  rw [ScheduledNode.missingSizes?] at refused
  split_ifs at refused with resize
  obtain ⟨index, sizes, rfl⟩ := Option.map_eq_some_iff.1 refused
  obtain ⟨here, negative⟩ := Option.filter_eq_some_iff.1 sizes
  have negative : index < 0 := of_decide_eq_true negative
  have known : Recipe.ofOpCode? node.op = some .resizeBilinear :=
    Recipe.ofOpCode?_eq_resizeBilinear.2 resize
  obtain ⟨_, _, found⟩ := Builder.target_eq_ok.1 target
  rw [Recipe.ofOpCode, known] at found
  cases found
  obtain ⟨options, taken⟩ : ∃ options, node.options = .resizeBilinear options :=
    Support.takes_of_check resize accepted
  obtain ⟨data, rest, tensor, inputs, admitted, _⟩ :=
    Support.of_check_unary accepted (by rw [resize]; rfl)
  have first : node.inputs[0]? = some data := by rw [inputs]; rfl
  have reads : Recipe.ReadsNode .resizeBilinear 0 := Nat.zero_lt_two
  obtain ⟨id, held⟩ := supplied.node_of_read given known reads first admitted.valid
  have looked : Scope.input ⟨builder.registry, tensors⟩ .resizeBilinear node.inputs 0 = .ok id :=
    input_eq_ok.2 ⟨data, first, admitted.valid, Registry.node_eq_ok.1 held⟩
  have missed : Scope.input ⟨builder.registry, tensors⟩ .resizeBilinear node.inputs 1 =
      .error (.missingOperand index) := by
    simp [Scope.input, Scope.operand, here, negative]
  have emitted : Recipe.emit .resizeBilinear ⟨builder.registry, tensors⟩ node.inputs node.options
      builder.draft = .error (.missingOperand index) builder.draft := by
    rw [taken, Recipe.emit, Emission.resizeBilinear,
      run_bind_of_ok (run_lift_ok looked builder.draft),
      run_bind_of_error (run_lift_error missed builder.draft)]
  exact Builder.lowerNode_of_error target emitted

/-- Under a rule with ranks nothing is refused. -/
theorem refusal_of_ranked {rule : SupportRule}
    (accepted : Support.check node.op node.inputs node.options tensors = .ok ())
    (ruled : Support.rule? node.op node.inputs.length = some rule) (ranked : rule.ranks ≠ none) :
    node.refusal? tensors = none := by
  obtain ⟨ranks, ranked⟩ := Option.ne_none_iff_exists'.1 ranked
  have low := Support.rank_le_four ruled ranks ranked
  obtain ⟨types, _⟩ := rule
  cases ranked
  obtain ⟨count, each⟩ := Support.of_check_ranked accepted ruled
  refine Option.or_eq_none_iff.2 ⟨List.findSome?_eq_none_iff.2 ?_, ?_⟩
  · intro index needed
    obtain ⟨position, here⟩ := List.getElem?_of_mem (mem_of_mem_neededInputs needed).1
    obtain ⟨tensor, admitted, _, allowed⟩ := each position index here
    obtain ⟨below, _⟩ := List.getElem?_eq_some_iff.1 here
    have rank := low _ (List.getElem_mem (count ▸ below)) _
      (allowed _ (List.getElem?_eq_getElem (count ▸ below)))
    rw [admitted.known, Option.bind_some, Tensor.refusal?]
    simp [admitted.given, Nat.not_lt.2 rank]
  · have other : node.op ≠ .builtin .resizeBilinear := by
      intro resize
      rw [resize] at ruled
      cases ruled
    rw [ScheduledNode.missingSizes?, if_neg other]

end Nodes

/-! ## The lowering -/

theorem partition_lowerNode_of_unregistered {partition : Partition} {tensors : TensorContext}
    {node : ScheduledNode} {builder after : Builder} {failure : Failure}
    (accepted : Support.check node.op node.inputs node.options tensors = .ok ())
    (failed : partition.materializeAll tensors node.neededInputs builder = .error failure after) :
    partition.lowerNode tensors node builder = .error failure after := by
  unfold Partition.lowerNode
  rw [run_bind_of_ok (run_lift_ok accepted builder), run_bind_of_error failed]

theorem partition_lowerNode_of_unlowered {partition : Partition} {tensors : TensorContext}
    {node : ScheduledNode} {builder between after : Builder} {fed : List OperandIndex}
    {failure : Failure}
    (accepted : Support.check node.op node.inputs node.options tensors = .ok ())
    (registered : partition.materializeAll tensors node.neededInputs builder = .ok fed between)
    (failed : Builder.lowerNode node.id node tensors between = .error failure after) :
    partition.lowerNode tensors node builder = .error failure after := by
  unfold Partition.lowerNode
  rw [run_bind_of_ok (run_lift_ok accepted builder), run_bind_of_ok registered,
    run_bind_of_error failed]

namespace Partition.Lone

variable {partition : Partition} {tensors : TensorContext} {settings : Settings}
  {node : ScheduledNode} {output : OperandIndex} {failure : Failure}
  (lone : partition.Lone node output)

include lone

theorem lower_eq_error {after : Builder}
    (failed : partition.lowerNode tensors node {} = .error failure after) :
    partition.lower tensors settings = .error failure := by
  have nodes : partition.nodes ≠ [] := by
    rw [lone.nodes_eq]
    exact List.cons_ne_nil node []
  have built : partition.build tensors settings {} = .error failure after := by
    unfold Partition.build
    simp only [nodes, if_false]
    rw [lone.nodes_eq, lowerNodes, run_bind_of_error (run_bind_of_error failed _)]
  rw [Partition.lower, lowerWithJournal, built]

variable (valid : 0 ≤ node.id)
  (accepted : Support.check node.op node.inputs node.options tensors = .ok ())
  (given : ∀ index ∈ node.inputs, 0 ≤ index → ∃ tensor, GivenOperand partition tensors index tensor)

include valid accepted given

theorem lower_of_refusal (refused : node.refusal? tensors = some failure) :
    partition.lower tensors settings = .error failure := by
  rcases Option.or_eq_some_iff.1 refused with operand | ⟨free, sizes⟩
  · obtain ⟨after, failed⟩ := materializeAll_of_refusedOperand given operand
    exact lone.lower_eq_error (partition_lowerNode_of_unregistered accepted failed)
  · obtain ⟨recipe, known⟩ := Support.exists_recipe accepted
    have target : Builder.target node.id node = .ok (output, recipe) :=
      Builder.target_eq_ok.2 ⟨valid, lone.written, by rw [Recipe.ofOpCode, known]⟩
    obtain ⟨fed, between, registered, supplied⟩ := supplied_of_given given free
    obtain ⟨after, failed⟩ := supplied.lowerNode_unsized given accepted target sizes
    exact lone.lower_eq_error (partition_lowerNode_of_unlowered accepted registered failed)

theorem lower_of_free (declared : partition.outputs = [output]) (free : node.refusal? tensors = none) :
    (∃ lowered, partition.lower tensors settings = .ok lowered) ∨
      ∃ obstacle, partition.lower tensors settings = .error (.obstructed obstacle) := by
  obtain ⟨operands, sizes⟩ := Option.or_eq_none_iff.1 free
  obtain ⟨recipe, known⟩ := Support.exists_recipe accepted
  have target : Builder.target node.id node = .ok (output, recipe) :=
    Builder.target_eq_ok.2 ⟨valid, lone.written, by rw [Recipe.ofOpCode, known]⟩
  have fits := Support.fits_of_optionsMatch (Support.optionsMatch_of_check accepted) known
  obtain ⟨fed, between, registered, supplied⟩ := supplied_of_given given operands
  rcases Builder.lowerNode_conducts between target fits
    (supplied.answers given known accepted sizes) with ⟨built, lowers⟩ | ⟨_, after, failed, obstructed⟩
  · obtain ⟨_, _, _, _, target', _, written⟩ := supplied.lowerNode lowers
    rw [target] at target'
    cases target'
    have bound : ∀ index ∈ partition.outputs, built.Bound index := by
      intro index member
      rw [declared, List.mem_singleton] at member
      exact (written.bound index).2 (.inl member)
    obtain ⟨ids, last, results, _⟩ := Builder.resultNodes_of_live written.live bound
    exact .inl ⟨_, lone.lower_eq_ok.2
      ⟨accepted, fed, between, built, ids, last, registered, lowers, results, rfl⟩⟩
  · obtain ⟨obstacle, rfl⟩ := obstructed
    exact .inr ⟨obstacle,
      lone.lower_eq_error (partition_lowerNode_of_unlowered accepted registered failed)⟩

end Partition.Lone

/-- A node that passes the check, with all of its operands given by the host, is lowered, or obstructed, or
refused for the reason told beforehand; under a rule with ranks there is none. -/
theorem accepted_lowers_or_refused (partition : Partition) (tensors : TensorContext)
    (settings : Settings) (node : ScheduledNode) (output : OperandIndex)
    (nodes : partition.nodes = [node]) (valid : 0 ≤ node.id)
    (written : node.outputs.head? = some output) (declared : partition.outputs = [output])
    (accepted : Support.check node.op node.inputs node.options tensors = .ok ())
    (given : ∀ index ∈ node.inputs, 0 ≤ index →
      ∃ tensor, GivenOperand partition tensors index tensor) :
    (∀ failure, node.refusal? tensors = some failure →
        partition.lower tensors settings = .error failure) ∧
      (node.refusal? tensors = none →
        (∃ lowered, partition.lower tensors settings = .ok lowered) ∨
          ∃ obstacle, partition.lower tensors settings = .error (.obstructed obstacle)) ∧
      ∀ rule, Support.rule? node.op node.inputs.length = some rule → rule.ranks ≠ none →
        node.refusal? tensors = none := by
  have lone : partition.Lone node output := by
    refine ⟨nodes, written, ?_⟩
    rw [declared]
    exact List.mem_singleton_self output
  refine ⟨?_, ?_, ?_⟩
  · intro failure refused
    exact lone.lower_of_refusal valid accepted given refused
  · intro free
    exact lone.lower_of_free valid accepted given declared free
  · intro rule ruled ranked
    exact refusal_of_ranked accepted ruled ranked

namespace RefusalExample

def node (operator : BuiltinOperator) (inputs : List OperandIndex) : ScheduledNode where
  id := 0
  op := .builtin operator
  inputs
  outputs := [2]

def partition (operator : BuiltinOperator) (inputs : List OperandIndex) : Partition where
  inputs := [0]
  outputs := [2]
  nodes := [node operator inputs]

def data (dims : List Int32) : Tensor where
  tensorType := .float32
  dims

def scalar : Tensor :=
  .constantFloat32 [] [1]

def tensors (dims : List Int32) : TensorContext :=
  (OperandMap.insert ∅ 0 (data dims)).insert 1 scalar

theorem given_data {operator : BuiltinOperator} {inputs : List OperandIndex} {dims : List Int32}
    (known : (tensors dims).get? 0 = some (data dims)) (given : dims ≠ [])
    (positive : ∀ dim ∈ dims, 0 < dim) (small : (data dims).hostShape.prod < Size.bound) :
    GivenOperand (partition operator inputs) (tensors dims) 0 (data dims) where
  known := known
  typed := ⟨.f32, rfl⟩
  positive := positive
  weights := nofun
  input _ := ⟨List.mem_singleton_self 0, given, small⟩

end RefusalExample

open RefusalExample in
/-- A second operand, which the check leaves alone, is registered all the same: weights without dims have the
node refused.  Without that operand it is lowered. -/
theorem accepted_lowers_or_refused_scalar :
    Support.check (.builtin .tanh) [0, 1] .none (tensors [2, 3]) = .ok () ∧
      (node .tanh [0, 1]).refusal? (tensors [2, 3]) =
        some (.invalidArgument (.constantWithoutDims 1)) ∧
      (partition .tanh [0, 1]).lower (tensors [2, 3]) {} =
        .error (.invalidArgument (.constantWithoutDims 1)) ∧
      Support.check (.builtin .tanh) [0] .none (tensors [2, 3]) = .ok () ∧
      (node .tanh [0]).refusal? (tensors [2, 3]) = none ∧
      ∃ lowered, (partition .tanh [0]).lower (tensors [2, 3]) {} = .ok lowered := by
  have image {inputs : List OperandIndex} :
      GivenOperand (partition .tanh inputs) (tensors [2, 3]) 0 (data [2, 3]) :=
    given_data (by decide) (by decide) (by simp) (by decide)
  have weights : GivenOperand (partition .tanh [0, 1]) (tensors [2, 3]) 1 scalar :=
    ⟨by decide, ⟨.f32, rfl⟩, List.forall_mem_nil _, fun _ => ⟨_, rfl, by decide⟩, nofun⟩
  have both : Support.check (.builtin .tanh) [0, 1] .none (tensors [2, 3]) = .ok () := by decide
  have one : Support.check (.builtin .tanh) [0] .none (tensors [2, 3]) = .ok () := by decide
  have refused : (node .tanh [0, 1]).refusal? (tensors [2, 3]) =
      some (.invalidArgument (.constantWithoutDims 1)) := by decide
  have free : (node .tanh [0]).refusal? (tensors [2, 3]) = none := by decide
  have giveBoth : ∀ index ∈ ([0, 1] : List OperandIndex), 0 ≤ index →
      ∃ tensor, GivenOperand (partition .tanh [0, 1]) (tensors [2, 3]) index tensor := by
    intro index member _
    simp only [List.mem_cons, List.not_mem_nil, or_false] at member
    rcases member with rfl | rfl
    · exact ⟨_, image⟩
    · exact ⟨_, weights⟩
  have giveOne : ∀ index ∈ ([0] : List OperandIndex), 0 ≤ index →
      ∃ tensor, GivenOperand (partition .tanh [0]) (tensors [2, 3]) index tensor := by
    intro index member _
    cases List.mem_singleton.1 member
    exact ⟨_, image⟩
  have failure := (accepted_lowers_or_refused (partition .tanh [0, 1]) (tensors [2, 3]) {}
    (node .tanh [0, 1]) 2 rfl (by decide) rfl rfl both giveBoth).1 _ refused
  have outcome := (accepted_lowers_or_refused (partition .tanh [0]) (tensors [2, 3]) {}
    (node .tanh [0]) 2 rfl (by decide) rfl rfl one giveOne).2.1 free
  have succeeds : ((partition .tanh [0]).lower (tensors [2, 3]) {}).isOk = true := by decide +kernel
  refine ⟨both, refused, failure, one, free, outcome.resolve_right ?_⟩
  rintro ⟨obstacle, obstructed⟩
  rw [obstructed] at succeeds
  cases succeeds

open RefusalExample in
/-- A rectifier takes a graph input of any rank, of which no parameter is made beyond four. -/
theorem fifth_dim_is_refused :
    Support.check (.builtin .relu) [0] .none (tensors [1, 1, 1, 1, 1]) = .ok () ∧
      GivenOperand (partition .relu [0]) (tensors [1, 1, 1, 1, 1]) 0 (data [1, 1, 1, 1, 1]) ∧
      (partition .relu [0]).lower (tensors [1, 1, 1, 1, 1]) {} = .error (.unsupportedRank 5) := by
  exact ⟨by decide, given_data (by decide) (by decide) (by simp) (by decide), by decide +kernel⟩

end PartitionLowering
