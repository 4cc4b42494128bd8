import PartitionLowering.Proofs.Lowering.Images
import PartitionLowering.Proofs.Networks.Mirror

/-!
Networks of elementwise operators.  Main statement: `elementwise_networks_lower`, by which such a network
always lowers, with the shapes that the host infers.  One node is told by `Mirrors.lower_elementwise`, the
nodes of a network by `Mirrors.lowerNodes_elementwise`.
-/

set_option autoImplicit false

namespace PartitionLowering

/-! ## Kinds of nodes -/

structure ScheduledNode.Unary (node : ScheduledNode) (recipe : Recipe) (op : Op) : Prop where
  known : Recipe.ofOpCode node.op = .ok recipe
  unary : recipe.unaryOp? = some op
  ruled : ∀ count, Support.rule? node.op count = some Support.unaryRule
  hosted : ∀ tensors shapes, Host.outputShape? tensors shapes node = Host.Shapes.at? shapes node 0

structure ScheduledNode.Binary (node : ScheduledNode) (recipe : Recipe) (op : Op)
    (activation : Activation) : Prop where
  known : Recipe.ofOpCode node.op = .ok recipe
  binary : recipe.binaryOp? = some op
  ruled : ∀ count, Support.rule? node.op count = some Support.binaryRule
  hosted : ∀ tensors shapes, Host.outputShape? tensors shapes node =
    (Host.Shapes.at? shapes node 0).bind fun lhs =>
      (Host.Shapes.at? shapes node 1).bind fun rhs => Host.broadcast? lhs rhs
  typing : ∀ scope graph, recipe.typing scope graph node.inputs node.options =
    Typing.binary scope graph node.inputs recipe op activation

/-- A node that works element by element, on one operand or on two with an activation that the engine
has. -/
inductive ScheduledNode.Elementwise (node : ScheduledNode) : Prop
  | unary (operator : BuiltinOperator) (op : node.op = .builtin operator)
      (known : operator ∈ [.relu, .relu6, .tanh, .logistic, .hardSwish])
      (single : node.inputs.length = 1)
  | add (options : ArithmeticOptions) (op : node.op = .builtin .add)
      (given : node.options = .add options) (activation : options.activation ≠ .signBit)
  | mul (options : ArithmeticOptions) (op : node.op = .builtin .mul)
      (given : node.options = .mul options) (activation : options.activation ≠ .signBit)

section Kinds

variable {node : ScheduledNode}

theorem unary_of_op {operator : BuiltinOperator} (op : node.op = .builtin operator)
    (known : operator ∈ [.relu, .relu6, .tanh, .logistic, .hardSwish] ∨ operator = .softmax) :
    ∃ recipe op, node.Unary recipe op := by
  obtain ⟨id, code, inputs, outputs, options⟩ := node
  cases op
  simp only [List.mem_cons, List.not_mem_nil, or_false] at known
  rcases known with (rfl | rfl | rfl | rfl | rfl) | rfl
  all_goals exact ⟨_, _, rfl, rfl, fun _ => rfl, fun _ _ => rfl⟩

theorem binary_of_add {options : ArithmeticOptions} (op : node.op = .builtin .add)
    (given : node.options = .add options) : node.Binary .add .add options.activation := by
  obtain ⟨id, code, inputs, outputs, options⟩ := node
  cases op
  cases given
  exact ⟨rfl, rfl, fun _ => rfl, fun _ _ => rfl, fun _ _ => rfl⟩

theorem binary_of_mul {options : ArithmeticOptions} (op : node.op = .builtin .mul)
    (given : node.options = .mul options) : node.Binary .mul .multiply options.activation := by
  obtain ⟨id, code, inputs, outputs, options⟩ := node
  cases op
  cases given
  exact ⟨rfl, rfl, fun _ => rfl, fun _ _ => rfl, fun _ _ => rfl⟩

end Kinds

/-! ## Acceptance -/

section Accepted

variable {node : ScheduledNode} {tensors : TensorContext} {recipe : Recipe} {op : Op}
  {activation : Activation}

theorem ScheduledNode.Unary.accepted (unary : node.Unary recipe op)
    (accepted : Support.check node.op node.inputs node.options tensors = .ok ()) :
    ∃ index rest tensor, node.inputs = index :: rest ∧ Support.Admitted tensors index tensor ∧
      tensor.tensorType = .float32 :=
  Support.of_check_unary accepted (unary.ruled _)

theorem ScheduledNode.Binary.accepted (binary : node.Binary recipe op activation)
    (accepted : Support.check node.op node.inputs node.options tensors = .ok ()) :
    ∃ lhs rhs, node.inputs = [lhs, rhs] ∧ ∀ index ∈ node.inputs, ∃ tensor,
      Support.Admitted tensors index tensor ∧ tensor.tensorType = .float32 := by
  obtain ⟨count, each⟩ := Support.of_check_ranked accepted (binary.ruled _)
  obtain ⟨lhs, rhs, inputs⟩ := List.length_eq_two.1 count
  refine ⟨lhs, rhs, inputs, ?_⟩
  intro index member
  obtain ⟨position, here⟩ := List.getElem?_of_mem member
  obtain ⟨tensor, admitted, typed, _⟩ := each position index here
  refine ⟨tensor, admitted, ?_⟩
  rw [inputs] at here
  match position, here with
  | 0, _ => exact List.mem_singleton.1 (typed _ rfl)
  | 1, _ => exact List.mem_singleton.1 (typed _ rfl)

theorem ScheduledNode.Elementwise.accepted (kind : node.Elementwise)
    (accepted : Support.check node.op node.inputs node.options tensors = .ok ()) {index : OperandIndex}
    (member : index ∈ node.inputs) :
    ∃ tensor, Support.Admitted tensors index tensor ∧ tensor.tensorType = .float32 := by
  cases kind with
  | unary operator operation known single =>
    obtain ⟨recipe, op, unary⟩ := unary_of_op operation (.inl known)
    obtain ⟨first, rest, tensor, inputs, admitted, float⟩ := unary.accepted accepted
    have alone : rest = [] := by simpa [inputs] using single
    rw [inputs, alone, List.mem_singleton] at member
    rw [member]
    exact ⟨tensor, admitted, float⟩
  | add options operation given _ =>
    obtain ⟨_, _, _, each⟩ := (binary_of_add operation given).accepted accepted
    exact each index member
  | mul options operation given _ =>
    obtain ⟨_, _, _, each⟩ := (binary_of_mul operation given).accepted accepted
    exact each index member

end Accepted

/-! ## One node -/

def LowRank (type : OutputType) : Prop :=
  type.1.length ≤ 4 ∧ type.2 = .f32

section Steps

variable {partition : Partition} {tensors : TensorContext} {shapes : Host.Shapes} {builder : Builder}
  {node : ScheduledNode} {recipe : Recipe} {op : Op}

theorem ready_of_admitted {index : OperandIndex} {tensor : Tensor}
    (admitted : Support.Admitted tensors index tensor) (float : tensor.tensorType = .float32)
    (mutable : tensor.allocation ≠ .mmapRo) (member : index ∈ partition.inputs)
    (low : tensor.rank ≤ 4) : Ready partition tensors LowRank index := by
  have element : Layout.elementType tensor.tensorType = .ok .f32 := by
    rw [float]
    rfl
  refine ⟨member, ⟨tensor, admitted.known, mutable, .inr admitted.elementCount?, ?_⟩, ?_⟩
  · intro elementType typed
    rw [element] at typed
    cases typed
    refine ⟨?_, rfl⟩
    rw [Tensor.hostShape, List.length_map]
    exact low
  · intro other known
    rw [admitted.unique known]
    exact ⟨(.f32, tensor.hostShape),
      Builder.inputType_eq_ok.2 ⟨admitted.valid, admitted.given, low, element, admitted.shape⟩⟩

theorem Mirrors.typeOf_unary (mirrors : Mirrors partition tensors LowRank shapes builder)
    (unary : node.Unary recipe op) {index : OperandIndex} (first : node.inputs[0]? = some index)
    (valid : 0 ≤ index) (bound : builder.Bound index) {shape : Shape}
    (hosted : Host.outputShape? tensors shapes node = some shape) :
    LowRank (shape, .f32) ∧
      builder.typeOf tensors node recipe = .ok ((Layout.engineShape shape, .f32), []) := by
  have known : shapes index = some shape := by
    rw [unary.hosted, Host.Shapes.at?, first] at hosted
    exact hosted
  obtain ⟨shape', elementType, same, low, data⟩ := mirrors.data first valid bound (by simp [known])
  rw [known] at same
  cases same
  obtain ⟨short, float⟩ := low
  cases float
  have rank : (Layout.engineShape shape).length = 4 := Layout.length_engineShape short
  refine ⟨⟨short, rfl⟩, ?_⟩
  rw [Builder.typeOf, Recipe.typing_unary unary.unary, unary_eq unary.unary rank data]
  rfl

theorem Mirrors.typeOf_binary (mirrors : Mirrors partition tensors LowRank shapes builder)
    {activation : Activation} (binary : node.Binary recipe op activation)
    (known : activation ≠ .signBit) {lhs rhs : OperandIndex} (first : node.inputs[0]? = some lhs)
    (second : node.inputs[1]? = some rhs) (valid : 0 ≤ lhs ∧ 0 ≤ rhs)
    (bound : builder.Bound lhs ∧ builder.Bound rhs) {shape : Shape}
    (hosted : Host.outputShape? tensors shapes node = some shape) :
    LowRank (shape, .f32) ∧ ∃ uses,
      builder.typeOf tensors node recipe = .ok ((Layout.engineShape shape, .f32), uses) := by
  rw [binary.hosted, Host.Shapes.at?, Host.Shapes.at?, first, second] at hosted
  obtain ⟨left, here, rest⟩ := Option.bind_eq_some_iff.1 hosted
  obtain ⟨right, there, joined⟩ := Option.bind_eq_some_iff.1 rest
  change shapes lhs = some left at here
  change shapes rhs = some right at there
  obtain ⟨_, _, same, low, data⟩ := mirrors.data first valid.1 bound.1 (by simp [here])
  obtain ⟨_, _, same', low', data'⟩ := mirrors.data second valid.2 bound.2 (by simp [there])
  rw [here] at same
  rw [there] at same'
  cases same
  cases same'
  obtain ⟨short, float⟩ := low
  obtain ⟨short', float'⟩ := low'
  cases float
  cases float'
  have inferred : op.infer [.ofType (Layout.engineShape left, .f32),
      .ofType (Layout.engineShape right, .f32)] = .ok (Layout.engineShape shape, .f32) :=
    (infer_arithmetic binary.binary short short').2 ⟨rfl, shape, joined, rfl⟩
  have activated := Typing.activate_eq_pure known (Layout.engineShape shape, .f32)
  constructor
  · refine ⟨?_, rfl⟩
    rw [Layout.length_of_host_broadcast? joined]
    exact Nat.max_le.2 ⟨short, short'⟩
  · rw [Builder.typeOf, binary.typing, binary_eq binary.binary data data']
    exact ⟨_, Typing.op_bind_run_eq_ok.2 ⟨_, inferred, activated _⟩⟩

theorem ScheduledNode.Elementwise.plain (kind : node.Elementwise) :
    node.op ≠ .builtin .transposeConv := by
  intro transposed
  cases kind with
  | unary operator op known _ =>
    rw [transposed] at op
    cases op
    simp at known
  | add options op _ _ =>
    rw [transposed] at op
    cases op
  | mul options op _ _ =>
    rw [transposed] at op
    cases op

theorem Mirrors.typeOf_elementwise (mirrors : Mirrors partition tensors LowRank shapes builder)
    (kind : node.Elementwise)
    (accepted : Support.check node.op node.inputs node.options tensors = .ok ())
    (bound : ∀ index ∈ node.inputs, 0 ≤ index ∧ builder.Bound index) {shape : Shape}
    (hosted : Host.outputShape? tensors shapes node = some shape) :
    LowRank (shape, .f32) ∧ ∃ recipe uses, Recipe.ofOpCode node.op = .ok recipe ∧
      builder.typeOf tensors node recipe = .ok ((Layout.engineShape shape, .f32), uses) := by
  have two : ∀ {recipe : Recipe} {op : Op} {activation : Activation},
      node.Binary recipe op activation → activation ≠ .signBit →
      LowRank (shape, .f32) ∧ ∃ recipe uses, Recipe.ofOpCode node.op = .ok recipe ∧
        builder.typeOf tensors node recipe = .ok ((Layout.engineShape shape, .f32), uses) := by
    intro recipe op activation binary known
    obtain ⟨lhs, rhs, inputs, _⟩ := binary.accepted accepted
    obtain ⟨valid, held⟩ := bound lhs (by simp [inputs])
    obtain ⟨valid', held'⟩ := bound rhs (by simp [inputs])
    obtain ⟨low, uses, typed⟩ := mirrors.typeOf_binary binary known (by simp [inputs])
      (by simp [inputs]) ⟨valid, valid'⟩ ⟨held, held'⟩ hosted
    exact ⟨low, recipe, uses, binary.known, typed⟩
  cases kind with
  | unary operator operation known _ =>
    obtain ⟨recipe, op, unary⟩ := unary_of_op operation (.inl known)
    obtain ⟨index, rest, _, inputs, _, _⟩ := unary.accepted accepted
    obtain ⟨valid, held⟩ := bound index (by simp [inputs])
    obtain ⟨low, typed⟩ := mirrors.typeOf_unary unary (by simp [inputs]) valid held hosted
    exact ⟨low, recipe, [], unary.known, typed⟩
  | add options operation given known => exact two (binary_of_add operation given) known
  | mul options operation given known => exact two (binary_of_mul operation given) known

theorem Mirrors.lower_elementwise (mirrors : Mirrors partition tensors LowRank shapes builder)
    (kind : node.Elementwise)
    (accepted : Support.check node.op node.inputs node.options tensors = .ok ())
    (numbered : 0 ≤ node.id)
    (ready : ∀ index ∈ node.inputs, builder.Bound index ∨ Ready partition tensors LowRank index)
    {output : OperandIndex} (first : node.outputs.head? = some output) {shape : Shape}
    (hosted : Host.outputShape? tensors shapes node = some shape) :
    ∃ given after, partition.lowerNode tensors node builder = .ok given after ∧
      Mirrors partition tensors LowRank (shapes.write output shape) after ∧ builder.Keeps after ∧
      after.Bound output ∧ ∀ index ∈ node.inputs, after.Bound index := by
  obtain ⟨given, between, registered, mirrors', keeps, bounds⟩ :=
    mirrors.materializeAll_ok fun index member => ready index (mem_of_mem_neededInputs member).1
  have bound : ∀ index ∈ node.inputs, 0 ≤ index ∧ between.Bound index := by
    intro index member
    obtain ⟨tensor, admitted, _⟩ := kind.accepted accepted member
    obtain ⟨position, here⟩ := List.getElem?_of_mem member
    have needed := mem_neededInputs here admitted.valid fun transposed => absurd transposed kind.plain
    exact ⟨admitted.valid, bounds index needed⟩
  obtain ⟨low, recipe, uses, known, typed⟩ := mirrors'.typeOf_elementwise kind accepted bound hosted
  have target := Builder.target_eq_ok.2 ⟨numbered, first, known⟩
  obtain ⟨after, lowered⟩ := mirrors'.lowerNode_ok target typed
  obtain ⟨output', recipe', told, uses', target', typed', keeps', held, stands⟩ :=
    mirrors'.lowerNode lowered
  rw [target] at target'
  cases target'
  rw [typed] at typed'
  cases typed'
  refine ⟨given, after, partition_lowerNode_eq_ok.2 ⟨accepted, between, registered, lowered⟩,
    stands shape .f32 rfl low, keeps.trans keeps', held, ?_⟩
  intro index member
  exact keeps'.bound index (bound index member).2

end Steps

/-! ## Networks -/

def Touched (nodes : List ScheduledNode) (index : OperandIndex) : Prop :=
  Host.Written nodes index ∨ ∃ node ∈ nodes, index ∈ node.inputs

/-- A network of elementwise nodes that are accepted.  What a node reads is no weights and comes from a node
before it, or else from the host with a rank of up to four; where a node adds or multiplies, the host's
shapes broadcast. -/
structure ElementwiseNetwork (partition : Partition) (tensors : TensorContext) : Prop where
  nodes : partition.nodes ≠ []
  outputs : partition.outputs ≠ []
  kinds : ∀ node ∈ partition.nodes, node.Elementwise
  accepted : ∀ node ∈ partition.nodes,
    Support.check node.op node.inputs node.options tensors = .ok ()
  numbered : ∀ node ∈ partition.nodes, 0 ≤ node.id
  written : ∀ node ∈ partition.nodes, node.outputs ≠ []
  mutable : ∀ node ∈ partition.nodes, ∀ index ∈ node.inputs, ∀ tensor,
    tensors.get? index = some tensor → tensor.allocation ≠ .mmapRo
  operands : ∀ before node after, partition.nodes = before ++ node :: after →
    ∀ index ∈ node.inputs, Host.Written before index ∨ index ∈ partition.inputs ∧
      ∀ tensor, tensors.get? index = some tensor → tensor.rank ≤ 4
  broadcasts : ∀ before node after shapes, partition.nodes = before ++ node :: after →
    Host.run? tensors (Host.inputShapes partition tensors) before = some shapes →
    node.op = .builtin .add ∨ node.op = .builtin .mul → ∀ lhs rhs,
      Host.Shapes.at? shapes node 0 = some lhs → Host.Shapes.at? shapes node 1 = some rhs →
      Host.broadcast? lhs rhs ≠ none
  results : ∀ index ∈ partition.outputs, Host.Written partition.nodes index ∨
    index ∈ partition.inputs ∧ ∃ node ∈ partition.nodes, index ∈ node.inputs

section Networks

variable {partition : Partition} {tensors : TensorContext}

theorem ElementwiseNetwork.read (network : ElementwiseNetwork partition tensors)
    {before after : List ScheduledNode} {node : ScheduledNode} {shapes : Host.Shapes}
    (split : partition.nodes = before ++ node :: after)
    (ran : Host.run? tensors (Host.inputShapes partition tensors) before = some shapes)
    {index : OperandIndex} (read : index ∈ node.inputs) : ∃ shape, shapes index = some shape := by
  apply Option.ne_none_iff_exists'.1
  rcases network.operands before node after split index read with written | ⟨given, _⟩
  · exact Host.ne_none_of_written ran written
  · have member : node ∈ partition.nodes := by simp [split]
    obtain ⟨tensor, admitted, _⟩ :=
      (network.kinds node member).accepted (network.accepted node member) read
    exact Host.ne_none_of_input ran given admitted.known

theorem ElementwiseNetwork.hosted (network : ElementwiseNetwork partition tensors)
    {before after : List ScheduledNode} {node : ScheduledNode} {shapes : Host.Shapes}
    (split : partition.nodes = before ++ node :: after)
    (ran : Host.run? tensors (Host.inputShapes partition tensors) before = some shapes) :
    ∃ shape, Host.outputShape? tensors shapes node = some shape := by
  have member : node ∈ partition.nodes := by simp [split]
  have accepted := network.accepted node member
  have two : ∀ {recipe : Recipe} {op : Op} {activation : Activation},
      node.Binary recipe op activation → node.op = .builtin .add ∨ node.op = .builtin .mul →
      ∃ shape, Host.outputShape? tensors shapes node = some shape := by
    intro recipe op activation binary arithmetic
    obtain ⟨first, second, inputs, _⟩ := binary.accepted accepted
    have read : first ∈ node.inputs ∧ second ∈ node.inputs := by simp [inputs]
    obtain ⟨lhs, left⟩ := network.read split ran read.1
    obtain ⟨rhs, right⟩ := network.read split ran read.2
    have at_left : Host.Shapes.at? shapes node 0 = some lhs := by
      rw [Host.Shapes.at?, inputs]
      exact left
    have at_right : Host.Shapes.at? shapes node 1 = some rhs := by
      rw [Host.Shapes.at?, inputs]
      exact right
    obtain ⟨shape, joined⟩ := Option.ne_none_iff_exists'.1
      (network.broadcasts before node after shapes split ran arithmetic lhs rhs at_left at_right)
    exact ⟨shape, by rw [binary.hosted, at_left, at_right, Option.bind_some, Option.bind_some, joined]⟩
  cases network.kinds node member with
  | unary operator operation known _ =>
    obtain ⟨recipe, op, unary⟩ := unary_of_op operation (.inl known)
    obtain ⟨index, rest, _, inputs, _⟩ := unary.accepted accepted
    have read : index ∈ node.inputs := by simp [inputs]
    obtain ⟨shape, known⟩ := network.read split ran read
    refine ⟨shape, ?_⟩
    rw [unary.hosted, Host.Shapes.at?, inputs]
    exact known
  | add options operation given _ => exact two (binary_of_add operation given) (.inl operation)
  | mul options operation given _ => exact two (binary_of_mul operation given) (.inr operation)

theorem ElementwiseNetwork.inferred (network : ElementwiseNetwork partition tensors)
    {rest : List ScheduledNode} :
    ∀ {before : List ScheduledNode} {shapes : Host.Shapes}, partition.nodes = before ++ rest →
      Host.run? tensors (Host.inputShapes partition tensors) before = some shapes →
      ∃ final, Host.run? tensors shapes rest = some final := by
  induction rest with
  | nil =>
    intro before shapes _ _
    exact ⟨shapes, rfl⟩
  | cons node rest ih =>
    intro before shapes split ran
    have member : node ∈ partition.nodes := by simp [split]
    obtain ⟨shape, hosted⟩ := network.hosted split ran
    obtain ⟨output, others, written⟩ := List.exists_cons_of_ne_nil (network.written node member)
    have first : node.outputs.head? = some output := by rw [written, List.head?_cons]
    obtain ⟨final, finished⟩ := ih (by simp [split]) (Host.run?_snoc ran hosted first)
    exact ⟨final, Host.run?_cons_eq_some.2 ⟨shape, output, hosted, first, finished⟩⟩

/-- The nodes of a network from some node on. -/
theorem Mirrors.lowerNodes_elementwise (network : ElementwiseNetwork partition tensors)
    {rest : List ScheduledNode} :
    ∀ {before : List ScheduledNode} {builder : Builder} {shapes final : Host.Shapes},
      partition.nodes = before ++ rest → Mirrors partition tensors LowRank shapes builder →
      (∀ index, Touched before index → builder.Bound index) →
      Host.run? tensors shapes rest = some final →
      ∃ given after, partition.lowerNodes tensors rest builder = .ok given after ∧
        Mirrors partition tensors LowRank final after ∧ builder.Keeps after ∧
        ∀ index, Touched partition.nodes index → after.Bound index := by
  induction rest with
  | nil =>
    intro before builder shapes final split mirrors touched ran
    cases ran
    rw [List.append_nil] at split
    rw [split]
    exact ⟨[], builder, rfl, mirrors, .refl _, touched⟩
  | cons node rest ih =>
    intro before builder shapes final split mirrors touched ran
    obtain ⟨shape, output, hosted, first, ran'⟩ := Host.run?_cons_eq_some.1 ran
    have member : node ∈ partition.nodes := by simp [split]
    have kind := network.kinds node member
    have accepted := network.accepted node member
    have ready : ∀ index ∈ node.inputs,
        builder.Bound index ∨ Ready partition tensors LowRank index := by
      intro index read
      rcases network.operands before node rest split index read with earlier | ⟨given, low⟩
      · exact .inl (touched index (.inl earlier))
      · obtain ⟨tensor, admitted, float⟩ := kind.accepted accepted read
        exact .inr (ready_of_admitted admitted float
          (network.mutable node member index read tensor admitted.known) given
          (low tensor admitted.known))
    obtain ⟨given, between, lowered, mirrors', keeps, held, bound⟩ :=
      mirrors.lower_elementwise kind accepted (network.numbered node member) ready first hosted
    have split' : partition.nodes = (before ++ [node]) ++ rest := by simp [split]
    have touched' : ∀ index, Touched (before ++ [node]) index → between.Bound index := by
      rintro index (written | ⟨other, here, read⟩)
      · rcases Host.written_append_singleton.1 written with earlier | last
        · exact keeps.bound index (touched index (.inl earlier))
        · rw [first] at last
          cases last
          exact held
      · rcases List.mem_append.1 here with earlier | last
        · exact keeps.bound index (touched index (.inr ⟨other, earlier, read⟩))
        · rw [List.mem_singleton.1 last] at read
          exact bound index read
    obtain ⟨others, after, lowered', mirrors'', keeps', all⟩ := ih split' mirrors' touched' ran'
    exact ⟨given ++ others, after,
      lowerNodes_cons_eq_ok.2 ⟨given, between, others, lowered, lowered', rfl⟩, mirrors'',
      keeps.trans keeps', all⟩

theorem ElementwiseNetwork.known (network : ElementwiseNetwork partition tensors)
    {shapes : Host.Shapes}
    (ran : Host.run? tensors (Host.inputShapes partition tensors) partition.nodes = some shapes)
    {index : OperandIndex} (declared : index ∈ partition.outputs) : shapes index ≠ none := by
  rcases network.results index declared with written | ⟨given, node, member, read⟩
  · exact Host.ne_none_of_written ran written
  · obtain ⟨tensor, admitted, _⟩ :=
      (network.kinds node member).accepted (network.accepted node member) read
    exact Host.ne_none_of_input ran given admitted.known

end Networks

/-- A network of elementwise nodes lowers, and each result has the shape that the host infers, ones in
front of it. -/
theorem elementwise_networks_lower (partition : Partition) (tensors : TensorContext)
    (settings : Settings) (network : ElementwiseNetwork partition tensors) :
    ∃ shapes lowered,
      Host.run? tensors (Host.inputShapes partition tensors) partition.nodes = some shapes ∧
      partition.lower tensors settings = .ok lowered ∧
      List.Forall₂ (fun index id => ∃ shape node, shapes index = some shape ∧
        lowered.model.graph.node? id = some node ∧ node.shape = Shape.padLeft 4 shape)
        partition.outputs lowered.model.results := by
  obtain ⟨shapes, inferred⟩ := network.inferred (List.nil_append _).symm rfl
  have untouched : ∀ index, Touched [] index → Builder.Bound {} index := by
    rintro index (written | ⟨_, member, _⟩)
    · exact absurd written Host.not_written_nil
    · cases member
  obtain ⟨given, built, ran, mirrors, keeps, bound⟩ :=
    Mirrors.lowerNodes_elementwise network rfl mirrors_empty untouched inferred
  have ready : ∀ index ∈ partition.outputs, built.Bound index ∧ shapes index ≠ none := by
    intro index declared
    refine ⟨bound index ?_, network.known inferred declared⟩
    rcases network.results index declared with written | ⟨_, read⟩
    · exact .inl written
    · exact .inr read
  obtain ⟨ids, last, results, _, kept, shown⟩ := Mirrors.resultNodes_ok (fun _ low => low.1) mirrors ready
  have lowers : Lowers partition tensors given built last ids :=
    ⟨network.nodes, network.outputs, ran, results⟩
  obtain ⟨lowered, success, graph, order⟩ := lowers.lower_eq settings
  refine ⟨shapes, lowered, inferred, success, ?_⟩
  have none_before : last.results = [] := kept.trans keeps.results_eq
  rw [order, graph, none_before, List.nil_append]
  apply shown.imp
  rintro index id ⟨shape, node, known, _, found, same⟩
  exact ⟨shape, node, known, found, same⟩

/-! ### A sum of images of ranks four and two, written over by an activation -/

namespace ElementwiseExample

def tensors : TensorContext :=
  OperandMap.ofList [(0, { tensorType := .float32, dims := [2, 3, 4, 5] }),
    (1, { tensorType := .float32, dims := [4, 1] }),
    (2, { tensorType := .float32, dims := [2, 3, 4, 5] })]

def sum : ScheduledNode where
  id := 0
  op := .builtin .add
  inputs := [0, 1]
  outputs := [2]
  options := .add { activation := .relu6 }

def bent : ScheduledNode where
  id := 1
  op := .builtin .tanh
  inputs := [2]
  outputs := [2]

def partition : Partition where
  inputs := [0, 1]
  outputs := [2, 1]
  nodes := [sum, bent]

theorem split_cases {before after : List ScheduledNode} {node : ScheduledNode}
    (split : partition.nodes = before ++ node :: after) :
    before = [] ∧ node = sum ∨ before = [sum] ∧ node = bent := by
  rcases before with _ | ⟨first, _ | ⟨second, others⟩⟩
  · cases split
    exact .inl ⟨rfl, rfl⟩
  · cases split
    exact .inr ⟨rfl, rfl⟩
  · have lengths := congrArg List.length split
    simp [partition] at lengths

theorem network : ElementwiseNetwork partition tensors where
  nodes := by decide
  outputs := by decide
  kinds := by
    intro node member
    rcases List.mem_pair.1 member with rfl | rfl
    · exact .add _ rfl rfl (by decide)
    · exact .unary .tanh rfl (by decide) rfl
  accepted := by decide +kernel
  numbered := by decide
  written := by decide
  mutable := by
    intro node member index read tensor known
    rcases List.mem_pair.1 member with rfl | rfl
    · rcases List.mem_pair.1 read with rfl | rfl
      · cases known
        decide
      · cases known
        decide
    · cases List.mem_singleton.1 read
      cases known
      decide
  operands := by
    intro before node after split index read
    rcases split_cases split with ⟨rfl, rfl⟩ | ⟨rfl, rfl⟩
    · rcases List.mem_pair.1 read with rfl | rfl
      · refine .inr ⟨by decide, ?_⟩
        intro tensor known
        cases known
        decide
      · refine .inr ⟨by decide, ?_⟩
        intro tensor known
        cases known
        decide
    · left
      rw [List.mem_singleton.1 read]
      exact ⟨sum, List.mem_singleton.2 rfl, rfl⟩
  broadcasts := by
    intro before node after shapes split ran arithmetic lhs rhs left right
    rcases split_cases split with ⟨rfl, rfl⟩ | ⟨rfl, rfl⟩
    · cases ran
      cases left
      cases right
      decide
    · rcases arithmetic with same | same <;> cases same
  results := by
    intro index declared
    rcases List.mem_pair.1 declared with rfl | rfl
    · exact .inl ⟨sum, by decide, rfl⟩
    · exact .inr ⟨by decide, sum, by decide, by decide⟩

end ElementwiseExample

open ElementwiseExample in
theorem elementwise_networks_lower_sum :
    ∃ shapes lowered,
      Host.run? tensors (Host.inputShapes partition tensors) partition.nodes = some shapes ∧
      partition.lower tensors {} = .ok lowered ∧
      List.Forall₂ (fun index id => ∃ shape node, shapes index = some shape ∧
        lowered.model.graph.node? id = some node ∧ node.shape = Shape.padLeft 4 shape)
        [2, 1] lowered.model.results :=
  elementwise_networks_lower partition tensors {} network

end PartitionLowering
