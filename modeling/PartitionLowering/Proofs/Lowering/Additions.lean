import PartitionLowering.Proofs.Lowering.EmissionConduct
import PartitionLowering.Proofs.Lowering.Gains

/-!
What emission adds, also where it fails.  A step is `Adding` when it adds to the graph and no parameter is
among what it has added, whether it then succeeds or fails.  There is one rule for each way in which steps
are put together, and one statement for each recipe; main statement: `Recipe.adding_emit`.  The node that a
recipe gives is one that computes: no source, and no mere change of layout (`Graph.Computes`).  What a
graph input is brought into its layout with is told by `Layout.of_toEngine`.
-/

set_option autoImplicit false

namespace PartitionLowering

/-- An operation that is neither a source nor a transpose. -/
def Op.computes : Op → Bool
  | .parameter | .constant _ | .transpose => false
  | _ => true

namespace Graph

structure Lengthens (before after : Graph) : Prop where
  longer : before.Extends after
  parameters : after.parameterIds = before.parameterIds

theorem Lengthens.refl (graph : Graph) : graph.Lengthens graph :=
  ⟨.refl graph, rfl⟩

theorem Lengthens.trans {first second third : Graph} (early : first.Lengthens second)
    (late : second.Lengthens third) : first.Lengthens third :=
  ⟨early.longer.trans late.longer, late.parameters.trans early.parameters⟩

theorem lengthens_push (graph : Graph) {op : Op} (kind : op ≠ .parameter) (inputs : List NodeId)
    (type : OutputType) : graph.Lengthens (graph.push op inputs type).2 := by
  refine ⟨graph.extends_push op inputs type, ?_⟩
  rw [parameterIds_push, if_neg kind, List.append_nil]

def Computes (graph : Graph) (id : NodeId) : Prop :=
  ∃ node, graph.node? id = some node ∧ node.op.computes = true

theorem Computes.mono {before after : Graph} {id : NodeId} (computes : before.Computes id)
    (longer : before.Extends after) : after.Computes id := by
  obtain ⟨node, found, op⟩ := computes
  exact ⟨node, longer.node? found, op⟩

def ComputesNode (graph : Graph) (node : Node) : Prop :=
  graph.Computes node.id

end Graph

/-! ## Steps -/

section Steps

variable {α β : Type} {Shows : Graph → α → Prop} {Shows' : Graph → β → Prop} {draft : Draft}

/-- A step that adds no parameter, whether it succeeds with a value of which `Shows` holds or fails. -/
def Adding (Shows : Graph → α → Prop) (step : Emit α) (draft : Draft) : Prop :=
  Takes (fun draft after => draft.graph.Lengthens after.graph) (fun _ => True)
    (fun after value => Shows after.graph value) step draft

def Whatever (_ : Graph) (_ : α) : Prop :=
  True

theorem adding_pure {value : α} (shown : Shows draft.graph value) :
    Adding Shows (pure value) draft :=
  takes_of_ok rfl (.refl draft.graph) shown

theorem adding_throw (failure : Failure) : Adding Shows (throw failure : Emit α) draft :=
  takes_of_error rfl (.refl draft.graph) trivial

theorem adding_lift (lookup : Except Failure α) :
    Adding (fun _ value => lookup = .ok value) (liftM lookup) draft :=
  takes_lift (.refl draft.graph) fun _ _ => trivial

theorem Adding.bind {step : Emit α} {next : α → Emit β} (first : Adding Shows step draft)
    (rest : ∀ value after, draft.graph.Extends after.graph → Shows after.graph value →
      Adding Shows' (next value) after) : Adding Shows' (step >>= next) draft :=
  Takes.bind .trans first fun value after lengthens => rest value after lengthens.longer

theorem Adding.map {step : Emit α} {write : α → β} (first : Adding Shows step draft)
    (tells : ∀ graph value, Shows graph value → Shows' graph (write value)) :
    Adding Shows' (do return write (← step)) draft :=
  first.bind fun value after _ shown => adding_pure (tells after.graph value shown)

theorem adding_get {next : Draft → Emit α} (rest : Adding Shows (next draft) draft) :
    Adding Shows (get >>= next) draft :=
  takes_get rest

theorem adding_note (event : Event) : Adding Whatever (Emit.note event) draft :=
  ⟨.refl _, trivial⟩

theorem adding_keep {op : Op} (kind : op ≠ .parameter) (inputs : List NodeId) (type : OutputType) :
    Adding Whatever (Emit.keep (draft.graph.push op inputs type)) draft :=
  ⟨draft.graph.lengthens_push kind inputs type, trivial⟩

theorem adding_int32Constant (values : List Int32) :
    Adding Whatever (Emit.int32Constant values) draft :=
  adding_get (adding_keep Op.noConfusion [] ([values.length], .i32))

theorem adding_int64Constant (values : List Int64) :
    Adding Whatever (Emit.int64Constant values) draft :=
  adding_get (adding_keep Op.noConfusion [] ([values.length], .i64))

theorem adding_op {op : Op} {Shows : Graph → Node → Prop} (kind : op ≠ .parameter)
    (inputs : List NodeId)
    (tells : ∀ graph node, graph.node? node.id = some node → node.op = op → Shows graph node) :
    Adding Shows (Emit.op op inputs) draft := by
  apply adding_get
  cases added : draft.graph.addOp op inputs with
  | error error => exact adding_throw _
  | ok result =>
    obtain ⟨type, _, rfl⟩ := Graph.addOp_eq_ok.1 added
    exact ⟨draft.graph.lengthens_push kind inputs type,
      tells _ _ (Graph.node?_push_self _ _ _ _) rfl⟩

theorem adding_computed {op : Op} (computes : op.computes = true) (inputs : List NodeId) :
    Adding Graph.ComputesNode (Emit.op op inputs) draft := by
  have kind : op ≠ .parameter := by
    rintro rfl
    cases computes
  apply adding_op kind inputs
  intro graph node found same
  exact ⟨node, found, by rw [same, computes]⟩

theorem adding_transpose (id : NodeId) (order : List Int64) :
    Adding Whatever (Emit.transpose id order) draft :=
  (adding_int64Constant order).bind fun _ _ _ _ =>
    adding_op Op.noConfusion _ fun _ _ _ _ => trivial

end Steps

/-! ## Fused parts -/

section Fused

variable {draft : Draft}

theorem computes_activation {activation : Activation} {op : Op}
    (known : Fusion.activationOp activation = .ok (some op)) : op.computes = true := by
  cases activation <;> cases known <;> rfl

theorem adding_activate {id : NodeId} (computes : draft.graph.Computes id) (activation : Activation) :
    Adding Graph.Computes (Fusion.activate id activation) draft := by
  apply (adding_lift (Fusion.activationOp activation)).bind
  intro op? after grown known
  cases op? with
  | none => exact adding_pure (computes.mono grown)
  | some op => exact (adding_computed (computes_activation known) [id]).map fun _ _ shown => shown

theorem adding_addBias (producer : Node) (bias : NodeId) (dims : List Int32) :
    Adding Graph.ComputesNode (Fusion.addBias producer bias dims) draft := by
  cases dims with
  | nil => exact adding_throw _
  | cons channels rest =>
    apply (adding_int32Constant (Fusion.biasPattern producer.rank channels)).bind
    intro pattern first _ _
    apply (adding_computed rfl [bias, pattern.id]).bind
    intro shaped second _ _
    exact adding_computed rfl [producer.id, shaped.id]

variable (scope : Scope) (recipe : Recipe) (inputs : List OperandIndex) (position : Nat)

theorem adding_addOptionalBias {producer : Node} (computes : draft.graph.ComputesNode producer) :
    Adding Graph.ComputesNode (Fusion.addOptionalBias scope recipe inputs position producer)
      draft := by
  apply (adding_lift (scope.optionalInput inputs position)).bind
  intro bias? after grown _
  cases bias? with
  | none => exact adding_pure (computes.mono grown)
  | some bias =>
    apply (adding_lift (scope.dims recipe inputs position)).bind
    intro dims last _ _
    exact adding_addBias producer bias dims

end Fused

/-! ## Recipes -/

section Recipes

variable {scope : Scope} {inputs : List OperandIndex} {draft : Draft}

theorem adding_unary (recipe : Recipe) {op : Op} (computes : op.computes = true) :
    Adding Graph.Computes (Emission.unary recipe op scope inputs) draft := by
  apply (adding_lift _).bind
  intro data after _ _
  exact (adding_computed computes [data]).map fun _ _ shown => shown

theorem adding_binary (recipe : Recipe) {op : Op} (computes : op.computes = true)
    (activation : Activation) :
    Adding Graph.Computes (Emission.binary recipe op scope inputs activation) draft := by
  apply (adding_lift _).bind
  intro lhs first _ _
  apply (adding_lift _).bind
  intro rhs second _ _
  apply (adding_computed computes [lhs, rhs]).bind
  intro result third _ shown
  exact adding_activate shown activation

theorem adding_averagePool2d (options : Pool2dOptions) :
    Adding Graph.Computes (Emission.averagePool2d scope inputs (.pool2d options)) draft := by
  apply (adding_lift _).bind
  intro data first _ _
  apply (adding_lift _).bind
  intro padMode second _ _
  apply (adding_lift _).bind
  intro attributes third _ _
  apply (adding_computed rfl [data]).bind
  intro result last _ shown
  exact adding_activate shown options.activation

theorem adding_maxPool2d (options : Pool2dOptions) :
    Adding Graph.Computes (Emission.maxPool2d scope inputs (.pool2d options)) draft := by
  apply (adding_lift _).bind
  intro data first _ _
  apply (adding_lift _).bind
  intro attributes second _ _
  apply (adding_computed rfl [data]).bind
  intro result last _ shown
  exact adding_activate shown options.activation

theorem adding_concatenation (options : ConcatenationOptions) :
    Adding Graph.Computes (Emission.concatenation scope inputs (.concatenation options)) draft := by
  rw [Emission.concatenation]
  by_cases few : inputs.length < 2
  · rw [if_pos few]
    exact adding_throw _
  · rw [if_neg few]
    apply (adding_lift _).bind
    intro parts first _ _
    apply (adding_computed rfl parts).bind
    intro result last _ shown
    exact adding_activate shown options.activation

theorem adding_optionPattern (options : BuiltinOptions) :
    Adding Whatever (Emission.optionPattern options) draft := by
  cases options with
  | reshape options =>
    rw [Emission.optionPattern]
    by_cases empty : options.newShape = []
    · rw [if_pos empty]
      exact adding_throw _
    · rw [if_neg empty]
      exact (adding_int32Constant options.newShape).map fun _ _ _ => trivial
  | _ => exact adding_throw _

theorem adding_reshape (options : BuiltinOptions) :
    Adding Graph.Computes (Emission.reshape scope inputs options) draft := by
  apply (adding_lift _).bind
  intro data first _ _
  apply (adding_lift _).bind
  intro pattern? second _ _
  have finish : ∀ pattern after, Adding Graph.Computes
      (do
        let result ← Emit.op (.reshape false) [data, pattern]
        pure result.id) after := by
    intro pattern after
    exact (adding_computed rfl [data, pattern]).map fun _ _ shown => shown
  cases pattern? with
  | none =>
    apply (adding_optionPattern options).bind
    intro pattern third _ _
    exact finish pattern third
  | some pattern =>
    simp only [pure_bind]
    exact finish pattern second

theorem adding_resizeBilinear (options : ResizeBilinearOptions) :
    Adding Graph.Computes (Emission.resizeBilinear scope inputs (.resizeBilinear options)) draft := by
  apply (adding_lift _).bind
  intro data first _ _
  apply (adding_lift _).bind
  intro sizes second _ _
  apply (adding_int32Constant [2, 3]).bind
  intro axes third _ _
  exact (adding_computed rfl [data, sizes, axes.id]).map fun _ _ shown => shown

theorem adding_mean (options : ReducerOptions) :
    Adding Graph.Computes (Emission.mean scope inputs (.reducer options)) draft := by
  apply (adding_lift _).bind
  intro data first _ _
  apply (adding_lift _).bind
  intro axes second _ _
  apply (adding_note _).bind
  intro _ third _ _
  apply (adding_int32Constant _).bind
  intro constant fourth _ _
  exact (adding_computed rfl [data, constant.id]).map fun _ _ shown => shown

theorem adding_convFilter (filter : NodeId) :
    Adding Whatever (Emission.convFilter scope inputs filter) draft := by
  rw [Emission.convFilter]
  by_cases flagged : scope.isFlagged inputs 1
  · rw [if_pos flagged]
    exact adding_pure trivial
  · rw [if_neg flagged]
    exact (adding_transpose filter _).map fun _ _ _ => trivial

theorem adding_conv2d (options : Conv2dOptions) :
    Adding Graph.Computes (Emission.conv2d scope inputs (.conv2d options)) draft := by
  apply (adding_lift _).bind
  intro data first _ _
  apply (adding_lift _).bind
  intro filter second _ _
  apply (adding_convFilter filter).bind
  intro ordered third _ _
  apply (adding_lift _).bind
  intro strides fourth _ _
  apply (adding_lift _).bind
  intro dilations fifth _ _
  apply (adding_lift _).bind
  intro padMode sixth _ _
  apply (adding_computed rfl [data, ordered]).bind
  intro result seventh _ shown
  apply (adding_addOptionalBias scope .conv2d inputs 2 shown).bind
  intro biased last _ shown'
  exact adding_activate shown' options.activation

theorem adding_depthwiseConv2d (options : DepthwiseConv2dOptions) :
    Adding Graph.Computes (Emission.depthwiseConv2d scope inputs (.depthwiseConv2d options))
      draft := by
  apply (adding_lift _).bind
  intro data first _ _
  apply (adding_lift _).bind
  intro filter second _ _
  apply (adding_transpose filter _).bind
  intro ordered third _ _
  apply (adding_lift _).bind
  intro dims fourth _ _
  apply (adding_lift _).bind
  intro channels fifth _ _
  apply (adding_lift _).bind
  intro grouped sixth _ _
  apply (adding_int64Constant _).bind
  intro pattern seventh _ _
  apply (adding_computed rfl [ordered.id, pattern.id]).bind
  intro shaped eighth _ _
  apply (adding_lift _).bind
  intro strides ninth _ _
  apply (adding_lift _).bind
  intro dilations tenth _ _
  apply (adding_lift _).bind
  intro padMode eleventh _ _
  apply (adding_computed rfl [data, shaped.id]).bind
  intro result twelfth _ shown
  apply (adding_addOptionalBias scope .depthwiseConv2d inputs 2 shown).bind
  intro biased last _ shown'
  exact adding_activate shown' options.activation

theorem adding_backpropData (recipe : Recipe) (inputPosition weightsPosition : Nat)
    (options : TransposeConvOptions) (height width : Int32) :
    Adding Graph.ComputesNode
      (Emission.backpropData scope recipe inputs inputPosition weightsPosition options height width)
      draft := by
  apply (adding_lift _).bind
  intro data first _ _
  apply (adding_lift _).bind
  intro weights second _ _
  apply (adding_transpose weights _).bind
  intro ordered third _ _
  apply (adding_lift _).bind
  intro strides fourth _ _
  apply (adding_int32Constant [height, width]).bind
  intro sizes fifth _ _
  exact adding_computed rfl [data, ordered.id, sizes.id]

theorem adding_transposeConv (options : TransposeConvOptions) :
    Adding Graph.Computes (Emission.transposeConv scope inputs (.transposeConv options)) draft := by
  apply (adding_lift _).bind
  intro dims first _ _
  rcases dims with _ | ⟨batch, _ | ⟨height, _ | ⟨width, rest⟩⟩⟩
  · exact adding_throw _
  · exact adding_throw _
  · exact adding_throw _
  · apply (adding_backpropData .transposeConv 2 1 options height width).bind
    intro result second _ shown
    apply (adding_addOptionalBias scope .transposeConv inputs 3 shown).bind
    intro biased last _ shown'
    exact adding_activate shown' options.activation

theorem adding_transposeConvBias (options : TransposeConvOptions) :
    Adding Graph.Computes (Emission.transposeConvBias scope inputs (.transposeConv options))
      draft := by
  apply (adding_lift _).bind
  intro dims first _ _
  rcases dims with _ | ⟨batch, _ | ⟨height, _ | ⟨width, rest⟩⟩⟩
  · exact adding_throw _
  · exact adding_throw _
  · exact adding_throw _
  · apply (adding_backpropData .transposeConvBias 0 1 options (height * 2) (width * 2)).bind
    intro result second _ _
    apply (adding_lift _).bind
    intro bias third _ _
    apply (adding_lift _).bind
    intro biasDims fourth _ _
    exact (adding_addBias result bias biasDims).map fun _ _ shown => shown

/-- Lowering a node adds no parameter, failed or not, and what it gives is a node that computes. -/
theorem Recipe.adding_emit (recipe : Recipe) (options : BuiltinOptions) :
    Adding Graph.Computes (recipe.emit scope inputs options) draft := by
  by_cases fits : recipe.Fits options
  · cases recipe with
    | add =>
      cases options <;> cases fits
      exact adding_binary .add rfl _
    | mul =>
      cases options <;> cases fits
      exact adding_binary .mul rfl _
    | averagePool2d =>
      cases options <;> cases fits
      exact adding_averagePool2d _
    | maxPool2d =>
      cases options <;> cases fits
      exact adding_maxPool2d _
    | concatenation =>
      cases options <;> cases fits
      exact adding_concatenation _
    | conv2d =>
      cases options <;> cases fits
      exact adding_conv2d _
    | depthwiseConv2d =>
      cases options <;> cases fits
      exact adding_depthwiseConv2d _
    | transposeConv =>
      cases options <;> cases fits
      exact adding_transposeConv _
    | transposeConvBias =>
      cases options <;> cases fits
      exact adding_transposeConvBias _
    | mean =>
      cases options <;> cases fits
      exact adding_mean _
    | resizeBilinear =>
      cases options <;> cases fits
      exact adding_resizeBilinear _
    | reshape => exact adding_reshape options
    | dequantize => exact adding_unary .dequantize rfl
    | hardSwish => exact adding_unary .hardSwish rfl
    | logistic => exact adding_unary .logistic rfl
    | relu => exact adding_unary .relu rfl
    | relu6 => exact adding_unary .relu6 rfl
    | tanh => exact adding_unary .tanh rfl
    | softmax => exact adding_unary .softmax rfl
  · rw [emit_of_unfit fits]
    exact adding_throw _

end Recipes

/-! ## Layouts -/

section Layouts

variable {draft : Draft}

theorem adding_toEngine (dims : List Int32) (id : NodeId) :
    Adding Whatever (Layout.toEngine dims id) draft := by
  apply adding_get
  by_cases there : draft.graph.contains id
  · rw [if_pos there]
    by_cases scalar : dims = []
    · rw [if_pos scalar]
      exact adding_throw _
    by_cases high : 4 < dims.length
    · rw [if_neg scalar, if_pos high]
      exact adding_throw _
    rw [if_neg scalar, if_neg high]
    -- the transpose comes last, whether or not a reshape stands before it
    have finish : ∀ {after : Draft} (image : NodeId),
        Adding Whatever
          (do
            let order ← Emit.int32Constant (Layout.toEngineOrder.map Int64.toInt32)
            let result ← Emit.op .transpose [image, order.id]
            pure result.id) after := by
      intro after image
      apply (adding_int32Constant _).bind
      intro order last _ _
      exact (adding_op Op.noConfusion _ fun _ _ _ _ => trivial).map fun _ _ _ => trivial
    by_cases short : dims.length < 4
    · rw [if_pos short]
      apply (adding_int32Constant (Layout.imageDims dims)).bind
      intro pattern first _ _
      apply (adding_computed rfl [id, pattern.id]).bind
      intro image second _ _
      simp only [pure_bind]
      exact finish image.id
    · rw [if_neg short]
      simp only [pure_bind]
      exact finish id
  · rw [if_neg there]
    exact adding_throw _

theorem adding_toHost (id : NodeId) : Adding Whatever (Layout.toHost id) draft := by
  apply adding_get
  cases draft.graph.node? id with
  | none => exact adding_throw _
  | some image =>
    dsimp only
    by_cases four : image.rank = 4
    · rw [if_pos four]
      exact (adding_transpose id _).map fun _ _ _ => trivial
    · rw [if_neg four]
      exact adding_throw _

end Layouts

/-! ### What a change of layout leaves -/

theorem Graph.counted_of_reshape {graph : Graph} {specialZero : Bool} {source pattern : NodeId}
    {type : OutputType} (inferred : graph.infer (.reshape specialZero) [source, pattern] = .ok type)
    {node : Node} (found : graph.node? source = some node) :
    Shape.elementCount? node.shape ≠ none := by
  obtain ⟨_, _, first, _, typed⟩ := Graph.infer_pair_eq_ok.1 inferred
  cases first.symm.trans found
  obtain ⟨_, given, typed⟩ := bind_eq_ok.1 typed
  cases given
  obtain ⟨values, _, typed⟩ := bind_eq_ok.1 typed
  obtain ⟨shape, reshaped, _⟩ := bind_eq_ok.1 typed
  intro overflows
  rw [Shape.reshape, overflows] at reshaped
  cases reshaped

theorem of_int32Constant {values : List Int32} {draft after : Draft} {node : Node}
    (ran : Emit.int32Constant values draft = .ok node after) :
    draft.graph.Extends after.graph ∧
      after.graph.integers? node.id = some (values.map Int32.toInt) := by
  cases ran
  exact ⟨Graph.extends_push _ _ _ _, Graph.integers?_addInt32Constant _ _⟩

namespace Layout

variable {draft after : Draft} {source result : NodeId}

/-- A transpose by an order that is there. -/
theorem of_ordered {image order : NodeId} {values : List Int} {node : Node}
    (read : draft.graph.integers? order = some values)
    (ran : Emit.op .transpose [image, order] draft = .ok node after) :
    draft.graph.Extends after.graph ∧ ∃ shape elementType,
      after.graph.node? node.id = some ⟨node.id, .transpose, [image, order], shape, elementType⟩ ∧
        after.graph.integers? order = some values := by
  obtain ⟨type, _, rfl, graph⟩ := of_op ran
  have grown := Graph.extends_push draft.graph .transpose [image, order] type
  rw [graph]
  exact ⟨grown, type.1, type.2, Graph.node?_push_self _ _ _ _, grown.integers? read⟩

/-- A node in the engine's layout: a transpose of the source, or of a reshape of it where its dims are
fewer than four; the reshape asks for an element count. -/
theorem of_toEngine {dims : List Int32} (ran : toEngine dims source draft = .ok result after) :
    draft.graph.Extends after.graph ∧ ∃ image order shape elementType,
      after.graph.node? result = some ⟨result, .transpose, [image, order], shape, elementType⟩ ∧
        after.graph.integers? order = some [0, 3, 1, 2] ∧
        (dims.length = 4 ∧ image = source ∨
          (∃ pattern shape' elementType', after.graph.node? image =
              some ⟨image, .reshape false, [source, pattern], shape', elementType'⟩ ∧
            after.graph.integers? pattern = some ((imageDims dims).map Int32.toInt)) ∧
          ∀ node, draft.graph.node? source = some node → Shape.elementCount? node.shape ≠ none) := by
  obtain ⟨image, middle, before, order, last, node, added, transposed, rfl⟩ := steps_of_toEngine ran
  obtain ⟨ordered, read⟩ := of_int32Constant added
  obtain ⟨grown, shape, elementType, found, integers⟩ := of_ordered read transposed
  have late := ordered.trans grown
  rcases before with ⟨four, rfl, rfl⟩ | ⟨pattern, first, reshaped, added', shaped, rfl⟩
  · exact ⟨late, image, order.id, shape, elementType, found, integers, .inl ⟨four, rfl⟩⟩
  · obtain ⟨early, asked⟩ := of_int32Constant added'
    obtain ⟨type, inferred, rfl, graph⟩ := of_op shaped
    rw [graph] at late
    have held := late.node? (Graph.node?_push_self first.graph (.reshape false) _ type)
    have later := (Graph.extends_push _ _ _ _).trans late
    exact ⟨early.trans later, _, order.id, shape, elementType, found, integers, .inr
      ⟨⟨pattern.id, type.1, type.2, held, later.integers? asked⟩, fun node known =>
        Graph.counted_of_reshape inferred (early.node? known)⟩⟩

end Layout
end PartitionLowering
