import PartitionLowering.Proofs.Lowering.Outcome

/-!
Every lowering agrees with its counterpart on types.  Main statement: `Recipe.ends_emit`, for all
recipes; before it, one statement for each part of a lowering.
-/

set_option autoImplicit false

namespace PartitionLowering

theorem Ends.map {α β γ : Type} {Shows : Graph → α → β → Prop} {Shows' : Graph → γ → β → Prop}
    {step : Emit α} {draft : Draft} {typing : Typing β} {f : α → γ}
    (ends : Ends Shows step draft typing)
    (shown : ∀ graph value told, Shows graph value told → Shows' graph (f value) told) :
    Ends Shows' (step >>= fun value => pure (f value)) draft typing := by
  have whole : Ends Shows' (step >>= fun value => pure (f value)) draft (typing >>= pure) := by
    apply ends.bind
    intro value after told _ shows_value
    exact ends_pure (shown _ _ _ shows_value)
  rwa [bind_pure] at whole

/-- The node of the operand at a position is there, if the operand has one. -/
def Scope.Live (scope : Scope) (graph : Graph) (inputs : List OperandIndex) (position : Nat) : Prop :=
  ∀ index id, inputs[position]? = some index → 0 ≤ index → scope.registry.node? index = some id →
    id < graph.size

abbrev Found (graph : Graph) (id : NodeId) (node : Node) : Prop :=
  graph.node? id = some node

section Operands

variable {scope : Scope} {graph : Graph} {inputs : List OperandIndex} {draft : Draft}

theorem nodeOf_eq_ok {id : NodeId} (below : id < graph.size) :
    ∃ node, Typing.nodeOf graph id = .ok node ∧ graph.node? id = some node := by
  obtain ⟨node, found⟩ := Graph.exists_node?_of_lt_size below
  exact ⟨node, by rw [Typing.nodeOf, found], found⟩

theorem input_eq_ok {recipe : Recipe} {position : Nat} {id : NodeId} :
    scope.input recipe inputs position = .ok id ↔
      ∃ index, inputs[position]? = some index ∧ 0 ≤ index ∧ scope.registry.node? index = some id := by
  rw [Scope.input, Scope.operand]
  cases here : inputs[position]? with
  | none => simp
  | some index =>
    by_cases negative : index < 0
    · have absurd : ¬0 ≤ index := Int32.not_le.2 negative
      simp [negative, absurd]
    · have valid : 0 ≤ index := Int32.not_lt.1 negative
      cases bound : scope.registry.node? index with
      | none => simp [negative, Registry.node, bound]
      | some id' => simp [negative, valid, Registry.node, bound]

theorem typing_input (recipe : Recipe) {position : Nat} (live : scope.Live graph inputs position) :
    (∃ failure, scope.input recipe inputs position = .error failure ∧
        Typing.input scope graph inputs recipe position = .error failure) ∨
      ∃ id node, scope.input recipe inputs position = .ok id ∧
        Typing.input scope graph inputs recipe position = .ok node ∧ graph.node? id = some node := by
  cases outcome : scope.input recipe inputs position with
  | error failure =>
    left
    exact ⟨failure, rfl, by rw [Typing.input, outcome, error_bind]⟩
  | ok id =>
    right
    obtain ⟨index, here, valid, bound⟩ := input_eq_ok.1 outcome
    obtain ⟨node, known, found⟩ := nodeOf_eq_ok (live index id here valid bound)
    exact ⟨id, node, rfl, by rw [Typing.input, outcome, ok_bind, known], found⟩

theorem ends_input {position : Nat} (recipe : Recipe) (live : scope.Live graph inputs position)
    (grown : graph.Extends draft.graph) :
    Ends Found (liftM (scope.input recipe inputs position)) draft
      (liftM (Typing.input scope graph inputs recipe position)) := by
  rcases typing_input recipe live with
    ⟨failure, missed, missed'⟩ | ⟨id, node, found, found', there⟩
  · rw [missed, missed']
    exact ends_throw failure
  · rw [found, found']
    exact ends_pure (grown.node? there)

theorem ends_optionalInput {position : Nat} (live : scope.Live graph inputs position)
    (grown : graph.Extends draft.graph) :
    Ends (fun later => Option.Rel (Found later)) (liftM (scope.optionalInput inputs position)) draft
      (liftM (Typing.optionalInput scope graph inputs position)) := by
  cases outcome : scope.optionalInput inputs position with
  | error failure =>
    rw [Typing.optionalInput, outcome, error_bind]
    exact ends_throw failure
  | ok id? =>
    rw [Typing.optionalInput, outcome, ok_bind]
    cases id? with
    | none => exact ends_pure .none
    | some id =>
      have bound : ∃ index, inputs[position]? = some index ∧ 0 ≤ index ∧
          scope.registry.node? index = some id := by
        rw [Scope.optionalInput] at outcome
        cases here : inputs[position]? with
        | none => simp [here] at outcome
        | some index =>
          by_cases valid : 0 ≤ index
          · cases known : scope.registry.node? index with
            | none => simp [here, valid, Registry.node, known] at outcome
            | some id' => simpa [here, valid, Registry.node, known] using outcome
          · simp [here, valid] at outcome
      obtain ⟨index, here, valid, bound⟩ := bound
      obtain ⟨node, known, there⟩ := nodeOf_eq_ok (live index id here valid bound)
      simp only [known]
      exact ends_pure (.some (grown.node? there))

theorem typing_inputs (recipe : Recipe) (live : ∀ position, scope.Live graph inputs position)
    (positions : List Nat) :
    (∃ failure, (positions.mapM fun position => scope.input recipe inputs position) = .error failure ∧
        (positions.mapM fun position => Typing.input scope graph inputs recipe position) =
          .error failure) ∨
      ∃ ids nodes, (positions.mapM fun position => scope.input recipe inputs position) = .ok ids ∧
        (positions.mapM fun position => Typing.input scope graph inputs recipe position) = .ok nodes ∧
          graph.Denote ids nodes := by
  induction positions with
  | nil => exact .inr ⟨[], [], rfl, rfl, .nil⟩
  | cons position rest ih =>
    simp only [List.mapM_cons]
    rcases typing_input recipe (live position) with
      ⟨failure, missed, missed'⟩ | ⟨id, node, found, found', there⟩
    · left
      exact ⟨failure, by rw [missed, error_bind], by rw [missed', error_bind]⟩
    · rw [found, found', ok_bind, ok_bind]
      rcases ih with ⟨failure, missed, missed'⟩ | ⟨ids, nodes, founds, founds', denoted⟩
      · left
        exact ⟨failure, by rw [missed, error_bind], by rw [missed', error_bind]⟩
      · right
        exact ⟨id :: ids, node :: nodes, by rw [founds]; rfl, by rw [founds']; rfl,
          .cons there denoted⟩

theorem ends_allInputs (recipe : Recipe) (live : ∀ position, scope.Live graph inputs position)
    (grown : graph.Extends draft.graph) :
    Ends (fun later => later.Denote) (liftM (Emission.allInputs scope recipe inputs)) draft
      (liftM (Typing.allInputs scope graph inputs recipe)) := by
  rw [Emission.allInputs, Typing.allInputs]
  rcases typing_inputs recipe live (List.range inputs.length) with
    ⟨failure, missed, missed'⟩ | ⟨ids, nodes, founds, founds', denoted⟩
  · rw [missed, missed']
    exact ends_throw failure
  · rw [founds, founds']
    exact ends_pure (grown.denote denoted)

end Operands

/-! ## Fused parts -/

section Fused

variable {draft : Draft}

theorem ends_transpose {id : NodeId} {node : Node} (typed : draft.graph.Typed id node.outputType)
    (order : List Int64) :
    Ends Graph.Yields (Emit.transpose id order) draft (Typing.transpose node order) := by
  rw [Emit.transpose, Typing.transpose]
  apply Ends.after_int64Constant order
  intro constant after grown holds
  exact ends_op (.of_second rfl (grown.typed typed) holds)

theorem ends_op_plain {op : Op} (plain : op.integerPositions = []) {id : NodeId} {type : OutputType}
    (typed : draft.graph.Typed id type) :
    Ends Graph.Yields (Emit.op op [id]) draft (Typing.op op [.ofType type]) :=
  ends_op (.of_typed plain (.cons typed .nil))

theorem plain_of_activation {activation : Activation} {op : Op}
    (known : Fusion.activationOp activation = .ok (some op)) : op.integerPositions = [] := by
  cases activation <;> cases known <;> rfl

theorem ends_activate {id : NodeId} {type : OutputType} (typed : draft.graph.Typed id type)
    (activation : Activation) :
    Ends Graph.Typed (Fusion.activate id activation) draft (Typing.activate type activation) := by
  cases known : Fusion.activationOp activation with
  | error failure =>
    rw [Fusion.activate, Typing.activate, known]
    exact ends_throw failure
  | ok op? =>
    rw [Fusion.activate, Typing.activate, known]
    cases op? with
    | none => exact ends_pure typed
    | some op =>
      have activated : Ends Graph.Yields (Emit.op op [id]) draft (Typing.op op [.ofType type]) :=
        ends_op_plain (plain_of_activation known) typed
      exact activated.map fun _ _ _ yields => yields.typed

theorem ends_addBias {producer : Node} {type : OutputType}
    (yields : draft.graph.Yields producer type) {id : NodeId} {bias : Node}
    (found : Found draft.graph id bias) (dims : List Int32) :
    Ends Graph.Yields (Fusion.addBias producer id dims) draft (Typing.addBias type bias dims) := by
  cases dims with
  | nil => exact ends_throw _
  | cons channels rest =>
    have rank : producer.rank = type.1.length := by
      rw [← yields.2]
      rfl
    rw [Fusion.addBias, Typing.addBias, rank]
    apply Ends.after_int32Constant
    intro pattern first grown holds
    have biased : first.graph.Typed id bias.outputType := grown.typed (Graph.holds_of_node? found).typed
    apply (ends_op (.of_second rfl biased holds)).bind
    intro reshaped second told grown' yields'
    have produced : second.graph.Typed producer.id type := (grown.trans grown').typed yields.typed
    exact ends_op (.of_typed rfl (.cons produced (.cons yields'.typed .nil)))

theorem ends_addOptionalBias {scope : Scope} {graph : Graph} {inputs : List OperandIndex}
    {position : Nat} (live : scope.Live graph inputs position) (grown : graph.Extends draft.graph)
    (recipe : Recipe) {producer : Node} {type : OutputType}
    (yields : draft.graph.Yields producer type) :
    Ends Graph.Yields (Fusion.addOptionalBias scope recipe inputs position producer) draft
      (Typing.addOptionalBias scope graph inputs recipe position type) := by
  rw [Fusion.addOptionalBias, Typing.addOptionalBias]
  apply (ends_optionalInput live grown).bind
  intro id? after node? grown' shown
  cases shown with
  | none => exact ends_pure (grown'.yields yields)
  | some found =>
    apply (ends_lift_self _).bind
    rintro dims later _ grown'' rfl
    exact ends_addBias ((grown'.trans grown'').yields yields) (grown''.node? found) dims

end Fused

/-! ## Recipes -/

section Recipes

variable {scope : Scope} {inputs : List OperandIndex} {draft : Draft}

theorem ends_unary (recipe : Recipe) {op : Op} (plain : op.integerPositions = [])
    (live : scope.Live draft.graph inputs 0) :
    Ends Graph.Typed (Emission.unary recipe op scope inputs) draft
      (Typing.unary scope draft.graph inputs recipe op) := by
  rw [Emission.unary, Typing.unary]
  apply (ends_input recipe live (.refl _)).bind
  intro id after node grown found
  have typed : after.graph.Typed id node.outputType := (Graph.holds_of_node? found).typed
  have applied : Ends Graph.Yields (Emit.op op [id]) after (Typing.op op [node]) :=
    ends_op (.of_typed plain (.cons typed .nil))
  exact applied.map fun _ _ _ yields => yields.typed

theorem ends_binary (recipe : Recipe) {op : Op} (plain : op.integerPositions = [])
    (activation : Activation) (live : ∀ position, scope.Live draft.graph inputs position) :
    Ends Graph.Typed (Emission.binary recipe op scope inputs activation) draft
      (Typing.binary scope draft.graph inputs recipe op activation) := by
  rw [Emission.binary, Typing.binary]
  apply (ends_input recipe (live 0) (.refl _)).bind
  intro lhs first lhs' grown found
  apply (ends_input recipe (live 1) grown).bind
  intro rhs second rhs' grown' found'
  have left : second.graph.Typed lhs lhs'.outputType :=
    (Graph.holds_of_node? (grown'.node? found)).typed
  have right : second.graph.Typed rhs rhs'.outputType := (Graph.holds_of_node? found').typed
  apply (ends_op (.of_typed plain (.cons left (.cons right .nil)))).bind
  intro result third type _ yields
  exact ends_activate yields.typed activation

theorem ends_averagePool2d (options : BuiltinOptions) (live : scope.Live draft.graph inputs 0) :
    Ends Graph.Typed (Emission.averagePool2d scope inputs options) draft
      (Typing.averagePool2d scope draft.graph inputs options) := by
  cases options with
  | pool2d options =>
    apply (ends_input .averagePool2d live (.refl _)).bind
    intro id first node grown found
    apply (ends_lift_self _).bind
    rintro padMode second _ grown' rfl
    apply (ends_lift_self _).bind
    rintro attributes third _ grown'' rfl
    have typed : third.graph.Typed id node.outputType :=
      (Graph.holds_of_node? ((grown'.trans grown'').node? found)).typed
    apply (ends_op (.of_typed rfl (.cons typed .nil))).bind
    intro result fourth type _ yields
    exact ends_activate yields.typed options.activation
  | _ => exact ends_throw _

theorem ends_maxPool2d (options : BuiltinOptions) (live : scope.Live draft.graph inputs 0) :
    Ends Graph.Typed (Emission.maxPool2d scope inputs options) draft
      (Typing.maxPool2d scope draft.graph inputs options) := by
  cases options with
  | pool2d options =>
    apply (ends_input .maxPool2d live (.refl _)).bind
    intro id first node grown found
    apply (ends_lift_self _).bind
    rintro attributes second _ grown' rfl
    have typed : second.graph.Typed id node.outputType :=
      (Graph.holds_of_node? (grown'.node? found)).typed
    apply (ends_op (.of_typed rfl (.cons typed .nil))).bind
    intro result third type _ yields
    exact ends_activate yields.typed options.activation
  | _ => exact ends_throw _

theorem typed_of_denote {graph : Graph} {ids : List NodeId} {nodes : List Node}
    (denoted : graph.Denote ids nodes) :
    List.Forall₂ (fun id node => graph.Typed id node.outputType) ids nodes :=
  denoted.imp fun _ _ found => (Graph.holds_of_node? found).typed

theorem ends_concatenation (options : BuiltinOptions)
    (live : ∀ position, scope.Live draft.graph inputs position) :
    Ends Graph.Typed (Emission.concatenation scope inputs options) draft
      (Typing.concatenation scope draft.graph inputs options) := by
  cases options with
  | concatenation options =>
    rw [Emission.concatenation, Typing.concatenation]
    by_cases few : inputs.length < 2
    · rw [if_pos few, if_pos few]
      exact ends_throw _
    · rw [if_neg few, if_neg few]
      apply (ends_allInputs .concatenation live (.refl _)).bind
      intro ids first nodes _ denoted
      apply (ends_op (.of_typed rfl (typed_of_denote denoted))).bind
      intro result second type _ yields
      exact ends_activate yields.typed options.activation
  | _ => exact ends_throw _

theorem ends_optionPattern (options : BuiltinOptions) :
    Ends Graph.Holds (Emission.optionPattern options) draft (liftM (Typing.optionPattern options)) := by
  cases options with
  | reshape options =>
    rw [Emission.optionPattern, Typing.optionPattern]
    by_cases empty : options.newShape = []
    · rw [if_pos empty, if_pos empty]
      exact ends_throw _
    · rw [if_neg empty, if_neg empty]
      apply Ends.after_int32Constant
      intro pattern after _ holds
      exact ends_pure holds
  | _ => exact ends_throw _

theorem ends_reshape (options : BuiltinOptions)
    (live : ∀ position, scope.Live draft.graph inputs position) :
    Ends Graph.Typed (Emission.reshape scope inputs options) draft
      (Typing.reshape scope draft.graph inputs options) := by
  have reshaped : ∀ {later : Draft} {data pattern : NodeId} {node held : Node},
      later.graph.Typed data node.outputType → later.graph.Holds pattern held →
      Ends Graph.Typed
        (do let result ← Emit.op (.reshape false) [data, pattern]; pure result.id) later
        (Typing.op (.reshape false) [node, held]) := by
    intro later data pattern node held typed holds
    have applied : Ends Graph.Yields (Emit.op (.reshape false) [data, pattern]) later
        (Typing.op (.reshape false) [node, held]) := ends_op (.of_second rfl typed holds)
    exact applied.map fun _ _ _ yields => yields.typed
  rw [Emission.reshape, Typing.reshape]
  apply (ends_input .reshape (live 0) (.refl _)).bind
  intro id first node grown found
  have typed := (Graph.holds_of_node? found).typed
  apply (ends_optionalInput (live 1) grown).bind
  intro id? second node? grown' shown
  cases shown with
  | none =>
    apply (ends_optionPattern options).bind
    intro pattern third held grown'' holds
    exact reshaped ((grown'.trans grown'').typed typed) holds
  | some found' => exact reshaped (grown'.typed typed) (Graph.holds_of_node? found')

theorem ends_resizeBilinear (options : BuiltinOptions)
    (live : ∀ position, scope.Live draft.graph inputs position) :
    Ends Graph.Typed (Emission.resizeBilinear scope inputs options) draft
      (Typing.resizeBilinear scope draft.graph inputs options) := by
  cases options with
  | resizeBilinear options =>
    apply (ends_input .resizeBilinear (live 0) (.refl _)).bind
    intro data first node grown found
    apply (ends_input .resizeBilinear (live 1) grown).bind
    intro sizes second held grown' found'
    apply Ends.after_int32Constant [2, 3]
    intro axes third grown'' holds
    have typed := (grown'.trans grown'').typed (Graph.holds_of_node? found).typed
    have holds' := grown''.holds (Graph.holds_of_node? found')
    have serves : third.graph.Serves (.interpolate (Emission.coordinateMode options))
        [data, sizes, axes.id] [node, held, .ofInt32s [2, 3]] := by
      refine ⟨.cons typed (.cons holds'.typed (.cons holds.typed .nil)), ?_⟩
      intro position member id actual here there
      rcases List.mem_pair.1 member with rfl | rfl
      · cases here
        cases there
        exact holds'
      · cases here
        cases there
        exact holds
    exact (ends_op serves).map fun _ _ _ yields => yields.typed
  | _ => exact ends_throw _

theorem ends_mean (options : BuiltinOptions) (live : scope.Live draft.graph inputs 0) :
    Ends Graph.Typed (Emission.mean scope inputs options) draft
      (Typing.mean scope draft.graph inputs options) := by
  cases options with
  | reducer options =>
    apply (ends_input .mean live (.refl _)).bind
    intro data first node grown found
    apply (ends_lift_self _).bind
    rintro axes second _ grown' rfl
    apply Ends.after_note
    intro third same
    apply Ends.after_int32Constant
    intro renumbered fourth grown'' holds
    rw [same] at grown''
    have typed := (grown'.trans grown'').typed (Graph.holds_of_node? found).typed
    exact (ends_op (.of_second rfl typed holds)).map fun _ _ _ yields => yields.typed
  | _ => exact ends_throw _

/-! ### Convolutions -/

theorem ends_convFilter {id : NodeId} {node : Node} (found : Found draft.graph id node) :
    Ends Graph.Typed (Emission.convFilter scope inputs id) draft
      (Typing.convFilter scope inputs node) := by
  have typed := (Graph.holds_of_node? found).typed
  rw [Emission.convFilter, Typing.convFilter]
  by_cases flagged : scope.isFlagged inputs 1
  · rw [if_pos flagged, if_pos flagged]
    exact ends_pure typed
  · rw [if_neg flagged, if_neg flagged]
    exact (ends_transpose typed Layout.toEngineOrder).map fun _ _ _ yields => yields.typed

theorem ends_conv2d (options : BuiltinOptions)
    (live : ∀ position, scope.Live draft.graph inputs position) :
    Ends Graph.Typed (Emission.conv2d scope inputs options) draft
      (Typing.conv2d scope draft.graph inputs options) := by
  cases options with
  | conv2d options =>
    apply (ends_input .conv2d (live 0) (.refl _)).bind
    intro data first dataNode grown found
    apply (ends_input .conv2d (live 1) grown).bind
    intro filter second filterNode grown₁ found'
    apply (ends_convFilter found').bind
    intro ordered third filterType grown₂ filtered
    apply (ends_lift_self _).bind
    rintro strides fourth _ stepped rfl
    apply (ends_lift_self _).bind
    rintro dilations fifth _ stepped₁ rfl
    apply (ends_lift_self _).bind
    rintro padMode sixth _ stepped₂ rfl
    have checked := (stepped.trans stepped₁).trans stepped₂
    have late := (grown₁.trans grown₂).trans checked
    have left := late.typed (Graph.holds_of_node? found).typed
    apply (ends_op (.of_typed rfl (.cons left (.cons (checked.typed filtered) .nil)))).bind
    intro result seventh type grown₃ yields
    apply (ends_addOptionalBias (live 2) ((grown.trans late).trans grown₃) .conv2d yields).bind
    intro biased eighth type' _ yields'
    exact ends_activate yields'.typed options.activation
  | _ => exact ends_throw _

theorem ends_orderedFilter {id : NodeId} {node : Node} (found : Found draft.graph id node)
    (position : Nat) :
    Ends Graph.Yields
      (Emit.transpose id
        (if scope.isFlagged inputs position then Emission.swapOuterAxes else Emission.lastAxisFirst))
      draft (Typing.orderedFilter scope inputs position node) :=
  ends_transpose (Graph.holds_of_node? found).typed _

theorem ends_depthwiseConv2d (options : BuiltinOptions)
    (live : ∀ position < 3, scope.Live draft.graph inputs position) :
    Ends Graph.Typed (Emission.depthwiseConv2d scope inputs options) draft
      (Typing.depthwiseConv2d scope draft.graph inputs options) := by
  cases options with
  | depthwiseConv2d options =>
    apply (ends_input .depthwiseConv2d (live 0 (by decide)) (.refl _)).bind
    intro data first dataNode grown found
    apply (ends_input .depthwiseConv2d (live 1 (by decide)) grown).bind
    intro filter second filterNode grown₁ found'
    apply (ends_orderedFilter found' 1).bind
    intro ordered third filterType grown₂ filtered
    apply (ends_lift_self _).bind
    rintro dims fourth _ stepped rfl
    apply (ends_lift_self _).bind
    rintro channels fifth _ stepped₁ rfl
    have same : ordered.shape = filterType.1 := congrArg Prod.fst filtered.2
    rw [same]
    apply (ends_lift_self _).bind
    rintro grouped sixth _ stepped₂ rfl
    apply Ends.after_int64Constant
    intro pattern seventh grown₃ holds
    have checked := ((stepped.trans stepped₁).trans stepped₂).trans grown₃
    apply (ends_op (.of_second rfl (checked.typed filtered.typed) holds)).bind
    intro reshaped eighth groupedType grown₄ yields
    apply (ends_lift_self _).bind
    rintro strides ninth _ stepped rfl
    apply (ends_lift_self _).bind
    rintro dilations tenth _ stepped₁ rfl
    apply (ends_lift_self _).bind
    rintro padMode eleventh _ stepped₂ rfl
    have checked' := (stepped.trans stepped₁).trans stepped₂
    have late := (((grown₁.trans grown₂).trans checked).trans grown₄).trans checked'
    have left := late.typed (Graph.holds_of_node? found).typed
    apply (ends_op (.of_typed rfl (.cons left (.cons (checked'.typed yields.typed) .nil)))).bind
    intro result twelfth type grown₅ yields'
    apply (ends_addOptionalBias (live 2 (by decide)) ((grown.trans late).trans grown₅) _ yields').bind
    intro biased last type' _ yields''
    exact ends_activate yields''.typed options.activation
  | _ => exact ends_throw _

theorem ends_backpropData {graph : Graph} (grown : graph.Extends draft.graph) (recipe : Recipe)
    {inputPosition weightsPosition : Nat} (live : scope.Live graph inputs inputPosition)
    (live' : scope.Live graph inputs weightsPosition) (options : TransposeConvOptions)
    (height width : Int32) :
    Ends Graph.Yields
      (Emission.backpropData scope recipe inputs inputPosition weightsPosition options height width)
      draft
      (Typing.backpropData scope graph inputs recipe inputPosition weightsPosition options height
        width) := by
  rw [Emission.backpropData, Typing.backpropData]
  apply (ends_input recipe live grown).bind
  intro data first dataNode grown₁ found
  apply (ends_input recipe live' (grown.trans grown₁)).bind
  intro weights second weightsNode grown₂ found'
  apply (ends_orderedFilter found' weightsPosition).bind
  intro ordered third weightsType grown₃ filtered
  apply (ends_lift_self _).bind
  rintro strides fourth _ grown₄ rfl
  apply Ends.after_int32Constant
  intro sizes fifth grown₅ holds
  have late := grown₄.trans grown₅
  have left := ((grown₂.trans grown₃).trans late).typed (Graph.holds_of_node? found).typed
  have right := late.typed filtered.typed
  apply ends_op
  refine ⟨.cons left (.cons right (.cons holds.typed .nil)), ?_⟩
  intro position member id node here there
  rw [List.mem_singleton.1 member] at here there
  cases here
  cases there
  exact holds

theorem ends_transposeConv (options : BuiltinOptions)
    (live : ∀ position, 0 < position → scope.Live draft.graph inputs position) :
    Ends Graph.Typed (Emission.transposeConv scope inputs options) draft
      (Typing.transposeConv scope draft.graph inputs options) := by
  cases options with
  | transposeConv options =>
    apply (ends_lift_self _).bind
    rintro dims first _ grown rfl
    rcases dims with _ | ⟨batch, _ | ⟨height, _ | ⟨width, rest⟩⟩⟩
    · exact ends_throw _
    · exact ends_throw _
    · exact ends_throw _
    · apply (ends_backpropData grown .transposeConv (live 2 (by decide)) (live 1 (by decide)) options
        height width).bind
      intro result second type grown₁ yields
      apply (ends_addOptionalBias (live 3 (by decide)) (grown.trans grown₁) _ yields).bind
      intro biased third type' _ yields'
      exact ends_activate yields'.typed options.activation
  | _ => exact ends_throw _

theorem ends_transposeConvBias (options : BuiltinOptions)
    (live : ∀ position, scope.Live draft.graph inputs position) :
    Ends Graph.Typed (Emission.transposeConvBias scope inputs options) draft
      (Typing.transposeConvBias scope draft.graph inputs options) := by
  cases options with
  | transposeConv options =>
    apply (ends_lift_self _).bind
    rintro dims first _ grown rfl
    rcases dims with _ | ⟨batch, _ | ⟨height, _ | ⟨width, rest⟩⟩⟩
    · exact ends_throw _
    · exact ends_throw _
    · exact ends_throw _
    · apply (ends_backpropData grown .transposeConvBias (live 0) (live 1) options (height * 2)
        (width * 2)).bind
      intro result second type grown₁ yields
      apply (ends_input .transposeConvBias (live 2) (grown.trans grown₁)).bind
      intro bias third biasNode grown₂ found
      apply (ends_lift_self _).bind
      rintro biasDims fourth _ grown₃ rfl
      have late := (grown₂.trans grown₃).yields yields
      exact (ends_addBias late (grown₃.node? found) biasDims).map fun _ _ _ yields => yields.typed
  | _ => exact ends_throw _

end Recipes

/-- The lowering of a node agrees with its counterpart on types, where the operands that it reads have
nodes that are there.  The output dims of a transposed convolution are not read from a node. -/
theorem Recipe.ends_emit (recipe : Recipe) {scope : Scope} {draft : Draft}
    {inputs : List OperandIndex} (options : BuiltinOptions)
    (live : ∀ position, (recipe = .transposeConv → 0 < position) →
      scope.Live draft.graph inputs position) :
    Ends Graph.Typed (recipe.emit scope inputs options) draft
      (recipe.typing scope draft.graph inputs options) := by
  cases recipe with
  | transposeConv =>
    exact ends_transposeConv options fun position later => live position fun _ => later
  | add =>
    have live' : ∀ position, scope.Live draft.graph inputs position :=
      fun position => live position nofun
    cases options with
    | add options => exact ends_binary .add rfl options.activation live'
    | _ => exact ends_throw _
  | mul =>
    have live' : ∀ position, scope.Live draft.graph inputs position :=
      fun position => live position nofun
    cases options with
    | mul options => exact ends_binary .mul rfl options.activation live'
    | _ => exact ends_throw _
  | averagePool2d => exact ends_averagePool2d options (live 0 nofun)
  | maxPool2d => exact ends_maxPool2d options (live 0 nofun)
  | concatenation => exact ends_concatenation options fun position => live position nofun
  | conv2d => exact ends_conv2d options fun position => live position nofun
  | depthwiseConv2d => exact ends_depthwiseConv2d options fun position _ => live position nofun
  | transposeConvBias => exact ends_transposeConvBias options fun position => live position nofun
  | reshape => exact ends_reshape options fun position => live position nofun
  | mean => exact ends_mean options (live 0 nofun)
  | resizeBilinear => exact ends_resizeBilinear options fun position => live position nofun
  | dequantize => exact ends_unary .dequantize rfl (live 0 nofun)
  | hardSwish => exact ends_unary .hardSwish rfl (live 0 nofun)
  | logistic => exact ends_unary .logistic rfl (live 0 nofun)
  | relu => exact ends_unary .relu rfl (live 0 nofun)
  | relu6 => exact ends_unary .relu6 rfl (live 0 nofun)
  | tanh => exact ends_unary .tanh rfl (live 0 nofun)
  | softmax => exact ends_unary .softmax rfl (live 0 nofun)

end PartitionLowering
