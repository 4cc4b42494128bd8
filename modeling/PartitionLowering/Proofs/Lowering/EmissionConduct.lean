import PartitionLowering.Proofs.Lowering.Conduct

/-!
The conduct of each recipe.  A node with the options of its recipe fails only where a look-up of its recipe
fails or the lowering is obstructed (`Recipe.conducts_emit`); options of another kind are refused before
anything is added (`Recipe.emit_of_unfit`).  Either way the graph develops, and a result is one of its
nodes (`Recipe.develops_emit`).
-/

set_option autoImplicit false

namespace PartitionLowering

open Likeness (obstructs_extents obstructs_padMode obstructs_activationOp obstructs_poolAttributes
  obstructs_inputChannels obstructs_groupedShape)

/-! ## Fused parts -/

section Fused

variable {Fails : Failure → Prop} {draft : Draft}

theorem plain_activation {activation : Activation} {op : Op}
    (known : Fusion.activationOp activation = .ok (some op)) : op.windowExtents = [] := by
  cases activation <;> cases known <;> rfl

theorem conducts_activate (allows : ∀ obstacle, Fails (.obstructed obstacle)) {id : NodeId}
    (has : draft.graph.HasId id) (activation : Activation) :
    Conducts Fails Graph.HasId (Fusion.activate id activation) draft := by
  apply (conducts_lift ((obstructs_activationOp activation).within allows)).bind
  intro op? after develops known
  cases op? with
  | none => exact conducts_pure (has.mono develops)
  | some op =>
    exact (conducts_plain allows (plain_activation known)).map fun _ _ shown => shown

theorem biasPattern_ne_nil (rank : Nat) (channels : Int32) :
    Fusion.biasPattern rank channels ≠ [] := by
  apply List.ne_nil_of_length_pos
  rw [Fusion.biasPattern, List.length_set, List.length_replicate]
  omega

theorem conducts_addBias (allows : ∀ obstacle, Fails (.obstructed obstacle)) (producer : Node)
    (bias : NodeId) (dims : List Int32) :
    Conducts Fails Graph.HasNode (Fusion.addBias producer bias dims) draft := by
  cases dims with
  | nil => exact conducts_throw (allows _)
  | cons channels rest =>
    apply (conducts_int32Constant (biasPattern_ne_nil producer.rank channels)).bind
    intro pattern first _ _
    apply (conducts_plain allows rfl).bind
    intro shaped second _ _
    exact conducts_plain allows rfl

variable {scope : Scope} {recipe : Recipe} {inputs : List OperandIndex}
  (answers : scope.Answers Fails recipe inputs) (position : Nat)

include answers

theorem Scope.Answers.conducts_input (reads : recipe.ReadsNode position) :
    Conducts Fails (fun _ id => scope.input recipe inputs position = .ok id)
      (liftM (scope.input recipe inputs position)) draft :=
  conducts_lift (answers.input position reads)

theorem Scope.Answers.conducts_addOptionalBias (reads : recipe.ReadsNode position) {producer : Node}
    (has : draft.graph.HasNode producer) :
    Conducts Fails Graph.HasNode
      (Fusion.addOptionalBias scope recipe inputs position producer) draft := by
  apply (conducts_lift (answers.optionalInput position reads)).bind
  intro bias? after develops _
  cases bias? with
  | none => exact conducts_pure (has.mono develops)
  | some bias =>
    apply (conducts_lift (answers.dims reads.reads)).bind
    intro dims last _ _
    exact conducts_addBias answers.allows producer bias dims

end Fused

/-! ## Recipes -/

section Recipes

variable {Fails : Failure → Prop} {scope : Scope} {recipe : Recipe} {inputs : List OperandIndex}
  {draft : Draft}

theorem conducts_unary (answers : scope.Answers Fails recipe inputs) (reads : recipe.ReadsNode 0)
    {op : Op} (plain : op.windowExtents = []) :
    Conducts Fails Graph.HasId (Emission.unary recipe op scope inputs) draft := by
  apply (answers.conducts_input 0 reads).bind
  intro data after _ _
  exact (conducts_plain answers.allows plain).map fun _ _ shown => shown

theorem conducts_binary (answers : scope.Answers Fails recipe inputs)
    (reads : ∀ position, recipe.ReadsNode position) {op : Op} (plain : op.windowExtents = [])
    (activation : Activation) :
    Conducts Fails Graph.HasId (Emission.binary recipe op scope inputs activation) draft := by
  apply (answers.conducts_input 0 (reads 0)).bind
  intro lhs first _ _
  apply (answers.conducts_input 1 (reads 1)).bind
  intro rhs second _ _
  apply (conducts_plain answers.allows plain).bind
  intro result third _ has
  exact conducts_activate answers.allows has activation

theorem conducts_averagePool2d (answers : scope.Answers Fails .averagePool2d inputs)
    (options : Pool2dOptions) :
    Conducts Fails Graph.HasId (Emission.averagePool2d scope inputs (.pool2d options))
      draft := by
  apply (answers.conducts_input 0 rfl).bind
  intro data first _ _
  apply (conducts_lift ((obstructs_padMode options.padding).within answers.allows)).bind
  intro padMode second _ _
  apply (conducts_lift ((obstructs_poolAttributes .averagePool2d options padMode).within answers.allows)).bind
  intro attributes third _ known
  have window : ∀ extent ∈ (Op.avgPool attributes true).windowExtents, 0 < extent :=
    pos_of_poolAttributes known
  apply (conducts_op answers.allows window).bind
  intro result last _ has
  exact conducts_activate answers.allows has options.activation

theorem conducts_maxPool2d (answers : scope.Answers Fails .maxPool2d inputs)
    (options : Pool2dOptions) :
    Conducts Fails Graph.HasId (Emission.maxPool2d scope inputs (.pool2d options)) draft := by
  apply (answers.conducts_input 0 rfl).bind
  intro data first _ _
  apply (conducts_lift ((obstructs_poolAttributes .maxPool2d options _).within answers.allows)).bind
  intro attributes second _ known
  have window : ∀ extent ∈ (Op.maxPool attributes).windowExtents, 0 < extent :=
    pos_of_poolAttributes known
  apply (conducts_op answers.allows window).bind
  intro result last _ has
  exact conducts_activate answers.allows has options.activation

theorem conducts_concatenation (answers : scope.Answers Fails .concatenation inputs)
    (options : ConcatenationOptions) :
    Conducts Fails Graph.HasId
      (Emission.concatenation scope inputs (.concatenation options)) draft := by
  rw [Emission.concatenation]
  by_cases few : inputs.length < 2
  · rw [if_pos few]
    exact conducts_throw (answers.allows _)
  · rw [if_neg few]
    apply (conducts_lift (failsWithin_mapM (fun position => answers.input position trivial) _)).bind
    intro parts first _ _
    apply (conducts_plain answers.allows rfl).bind
    intro result last _ has
    exact conducts_activate answers.allows has options.activation

theorem conducts_optionPattern (allows : ∀ obstacle, Fails (.obstructed obstacle))
    (options : BuiltinOptions) :
    Conducts Fails (fun _ _ => True) (Emission.optionPattern options) draft := by
  cases options with
  | reshape options =>
    rw [Emission.optionPattern]
    by_cases empty : options.newShape = []
    · rw [if_pos empty]
      exact conducts_throw (allows _)
    · rw [if_neg empty]
      exact (conducts_int32Constant empty).map fun _ _ _ => trivial
  | _ => exact conducts_throw (allows _)

theorem conducts_reshape (answers : scope.Answers Fails .reshape inputs)
    (options : BuiltinOptions) :
    Conducts Fails Graph.HasId (Emission.reshape scope inputs options) draft := by
  apply (answers.conducts_input 0 trivial).bind
  intro data first _ _
  apply (conducts_lift (answers.optionalInput 1 trivial)).bind
  intro pattern? second _ _
  have finish : ∀ pattern after, Conducts Fails Graph.HasId
      (do
        let result ← Emit.op (.reshape false) [data, pattern]
        pure result.id) after := by
    intro pattern after
    exact (conducts_plain answers.allows rfl).map fun _ _ shown => shown
  cases pattern? with
  | none =>
    apply (conducts_optionPattern answers.allows options).bind
    intro pattern third _ _
    exact finish pattern third
  | some pattern =>
    simp only [pure_bind]
    exact finish pattern second

theorem conducts_resizeBilinear (answers : scope.Answers Fails .resizeBilinear inputs)
    (options : ResizeBilinearOptions) :
    Conducts Fails Graph.HasId
      (Emission.resizeBilinear scope inputs (.resizeBilinear options)) draft := by
  apply (answers.conducts_input 0 Nat.zero_lt_two).bind
  intro data first _ _
  apply (answers.conducts_input 1 Nat.one_lt_two).bind
  intro sizes second _ _
  apply (conducts_int32Constant (List.cons_ne_nil _ _)).bind
  intro axes third _ _
  exact (conducts_plain answers.allows rfl).map fun _ _ shown => shown

theorem meanAxes_ne_nil {axes : List Int32} (known : Emission.meanAxes scope inputs = .ok axes) :
    axes ≠ [] := by
  rw [Emission.meanAxes] at known
  cases here : inputs[1]? with
  | none =>
    rw [here] at known
    cases known
  | some index =>
    simp only [here, bind_eq_ok] at known
    obtain ⟨tensor, _, held⟩ := known
    rcases integers : tensor.int32Values? with _ | _ | ⟨axis, rest⟩
    · rw [integers] at held
      cases held
    · rw [integers] at held
      cases held
    · rw [integers] at held
      cases held
      exact List.cons_ne_nil _ _

theorem conducts_mean (answers : scope.Answers Fails .mean inputs)
    (options : ReducerOptions) :
    Conducts Fails Graph.HasId (Emission.mean scope inputs (.reducer options)) draft := by
  apply (answers.conducts_input 0 trivial).bind
  intro data first _ _
  apply (conducts_lift (failsWithin_meanAxes answers)).bind
  intro axes second _ known
  apply (conducts_note _).bind
  intro _ third _ _
  have given : axes.map Emission.engineAxis ≠ [] := by simpa using meanAxes_ne_nil known
  apply (conducts_int32Constant given).bind
  intro constant fourth _ _
  exact (conducts_plain answers.allows rfl).map fun _ _ shown => shown

/-! ### Convolutions -/

theorem conducts_convFilter (allows : ∀ obstacle, Fails (.obstructed obstacle)) (filter : NodeId) :
    Conducts Fails (fun _ _ => True) (Emission.convFilter scope inputs filter) draft := by
  rw [Emission.convFilter]
  by_cases flagged : scope.isFlagged inputs 1
  · rw [if_pos flagged]
    exact conducts_pure trivial
  · rw [if_neg flagged]
    exact (conducts_transpose allows filter (by decide)).map fun _ _ _ => trivial

theorem conducts_conv2d (answers : scope.Answers Fails .conv2d inputs)
    (options : Conv2dOptions) :
    Conducts Fails Graph.HasId (Emission.conv2d scope inputs (.conv2d options)) draft := by
  apply (answers.conducts_input 0 trivial).bind
  intro data first _ _
  apply (answers.conducts_input 1 trivial).bind
  intro filter second _ _
  apply (conducts_convFilter answers.allows filter).bind
  intro ordered third _ _
  apply (conducts_lift ((obstructs_extents .conv2d _ _ options.strideHeight
    options.strideWidth).within answers.allows)).bind
  intro strides fourth _ strided
  apply (conducts_lift ((obstructs_extents .conv2d _ _ options.dilationHeightFactor
    options.dilationWidthFactor).within answers.allows)).bind
  intro dilations fifth _ dilated
  apply (conducts_lift ((obstructs_padMode options.padding).within answers.allows)).bind
  intro padMode sixth _ _
  have window : ∀ extent ∈ (Op.convolution ⟨strides, dilations, padMode⟩).windowExtents, 0 < extent :=
    List.forall_mem_append.2 ⟨pos_of_extents strided, pos_of_extents dilated⟩
  apply (conducts_op answers.allows window).bind
  intro result seventh _ has
  apply (answers.conducts_addOptionalBias 2 trivial has).bind
  intro biased last _ has'
  exact conducts_activate answers.allows has' options.activation

theorem orderedFilter_ne_nil (flagged : Bool) :
    (if flagged then Emission.swapOuterAxes else Emission.lastAxisFirst) ≠ [] := by
  cases flagged <;> decide

theorem groupedShape_ne_nil {channels : Nat} {filter grouped : Shape}
    (known : Emission.groupedShape channels filter = .ok grouped) : grouped ≠ [] := by
  rw [Emission.groupedShape, guard_eq_ok, guard_eq_ok] at known
  obtain ⟨_, _, same⟩ := known
  cases same
  exact List.cons_ne_nil _ _

theorem conducts_depthwiseConv2d (answers : scope.Answers Fails .depthwiseConv2d inputs)
    (options : DepthwiseConv2dOptions) :
    Conducts Fails Graph.HasId
      (Emission.depthwiseConv2d scope inputs (.depthwiseConv2d options)) draft := by
  apply (answers.conducts_input 0 trivial).bind
  intro data first _ _
  apply (answers.conducts_input 1 trivial).bind
  intro filter second _ _
  apply (conducts_transpose answers.allows filter (orderedFilter_ne_nil _)).bind
  intro ordered third _ _
  apply (conducts_lift (answers.dims trivial)).bind
  intro dims fourth _ _
  apply (conducts_lift ((obstructs_inputChannels dims).within answers.allows)).bind
  intro channels fifth _ _
  apply (conducts_lift ((obstructs_groupedShape channels ordered.shape).within answers.allows)).bind
  intro grouped sixth _ known
  have given : grouped.map Int64.ofNat ≠ [] := by simpa using groupedShape_ne_nil known
  apply (conducts_int64Constant given).bind
  intro pattern seventh _ _
  apply (conducts_plain answers.allows rfl).bind
  intro shaped eighth _ _
  apply (conducts_lift ((obstructs_extents .depthwiseConv2d _ _ options.strideHeight
    options.strideWidth).within answers.allows)).bind
  intro strides ninth _ strided
  apply (conducts_lift ((obstructs_extents .depthwiseConv2d _ _ options.dilationHeightFactor
    options.dilationWidthFactor).within answers.allows)).bind
  intro dilations tenth _ dilated
  apply (conducts_lift ((obstructs_padMode options.padding).within answers.allows)).bind
  intro padMode eleventh _ _
  have window : ∀ extent ∈ (Op.groupConvolution ⟨strides, dilations, padMode⟩).windowExtents, 0 < extent :=
    List.forall_mem_append.2 ⟨pos_of_extents strided, pos_of_extents dilated⟩
  apply (conducts_op answers.allows window).bind
  intro result twelfth _ has
  apply (answers.conducts_addOptionalBias 2 trivial has).bind
  intro biased last _ has'
  exact conducts_activate answers.allows has' options.activation

theorem conducts_backpropData (answers : scope.Answers Fails recipe inputs)
    {inputPosition weightsPosition : Nat} (reads : recipe.ReadsNode inputPosition)
    (reads' : recipe.ReadsNode weightsPosition) (options : TransposeConvOptions)
    (height width : Int32) :
    Conducts Fails Graph.HasNode
      (Emission.backpropData scope recipe inputs inputPosition weightsPosition options height width)
      draft := by
  apply (answers.conducts_input inputPosition reads).bind
  intro data first _ _
  apply (answers.conducts_input weightsPosition reads').bind
  intro weights second _ _
  apply (conducts_transpose answers.allows weights (orderedFilter_ne_nil _)).bind
  intro ordered third _ _
  apply (conducts_lift ((obstructs_extents recipe _ _ options.strideHeight
    options.strideWidth).within answers.allows)).bind
  intro strides fourth _ strided
  apply (conducts_int32Constant (List.cons_ne_nil _ _)).bind
  intro sizes fifth _ _
  have plain : ∀ extent ∈ (⟨1, 1⟩ : Spatial).toList, 0 < extent := by decide
  exact conducts_op answers.allows (List.forall_mem_append.2 ⟨pos_of_extents strided, plain⟩)

theorem conducts_transposeConv (answers : scope.Answers Fails .transposeConv inputs)
    (options : TransposeConvOptions) :
    Conducts Fails Graph.HasId
      (Emission.transposeConv scope inputs (.transposeConv options)) draft := by
  apply (conducts_lift (failsWithin_outputDims answers)).bind
  intro dims first _ _
  rcases dims with _ | ⟨batch, _ | ⟨height, _ | ⟨width, rest⟩⟩⟩
  · exact conducts_throw (answers.allows _)
  · exact conducts_throw (answers.allows _)
  · exact conducts_throw (answers.allows _)
  · apply (conducts_backpropData answers Nat.two_pos Nat.one_pos options height width).bind
    intro result second _ has
    apply (answers.conducts_addOptionalBias 3 (Nat.succ_pos 2) has).bind
    intro biased last _ has'
    exact conducts_activate answers.allows has' options.activation

theorem conducts_transposeConvBias (answers : scope.Answers Fails .transposeConvBias inputs)
    (options : TransposeConvOptions) :
    Conducts Fails Graph.HasId
      (Emission.transposeConvBias scope inputs (.transposeConv options)) draft := by
  apply (conducts_lift (answers.dims trivial)).bind
  intro dims first _ _
  rcases dims with _ | ⟨batch, _ | ⟨height, _ | ⟨width, rest⟩⟩⟩
  · exact conducts_throw (answers.allows _)
  · exact conducts_throw (answers.allows _)
  · exact conducts_throw (answers.allows _)
  · apply (conducts_backpropData answers trivial trivial options (height * 2) (width * 2)).bind
    intro result second _ _
    apply (answers.conducts_input 2 trivial).bind
    intro bias third _ _
    apply (conducts_lift (answers.dims trivial)).bind
    intro biasDims fourth _ _
    exact (conducts_addBias answers.allows result bias biasDims).map fun _ _ shown => shown

/-! ### All recipes -/

/-- Options that a recipe reads; a recipe that reads none takes any. -/
def Recipe.Fits : Recipe → BuiltinOptions → Prop
  | .add, .add _ | .mul, .mul _ | .averagePool2d, .pool2d _ | .maxPool2d, .pool2d _
  | .concatenation, .concatenation _ | .conv2d, .conv2d _ | .depthwiseConv2d, .depthwiseConv2d _
  | .transposeConv, .transposeConv _ | .transposeConvBias, .transposeConv _ | .mean, .reducer _
  | .resizeBilinear, .resizeBilinear _ => True
  | .dequantize, _ | .hardSwish, _ | .logistic, _ | .relu, _ | .relu6, _ | .tanh, _ | .reshape, _
  | .softmax, _ => True
  | _, _ => False

theorem Recipe.conducts_emit (answers : scope.Answers Fails recipe inputs) {options : BuiltinOptions}
    (fits : recipe.Fits options) :
    Conducts Fails Graph.HasId (recipe.emit scope inputs options) draft := by
  cases recipe with
  | add =>
    cases options <;> cases fits
    exact conducts_binary answers (fun _ => trivial) rfl _
  | mul =>
    cases options <;> cases fits
    exact conducts_binary answers (fun _ => trivial) rfl _
  | averagePool2d =>
    cases options <;> cases fits
    exact conducts_averagePool2d answers _
  | maxPool2d =>
    cases options <;> cases fits
    exact conducts_maxPool2d answers _
  | concatenation =>
    cases options <;> cases fits
    exact conducts_concatenation answers _
  | conv2d =>
    cases options <;> cases fits
    exact conducts_conv2d answers _
  | depthwiseConv2d =>
    cases options <;> cases fits
    exact conducts_depthwiseConv2d answers _
  | transposeConv =>
    cases options <;> cases fits
    exact conducts_transposeConv answers _
  | transposeConvBias =>
    cases options <;> cases fits
    exact conducts_transposeConvBias answers _
  | mean =>
    cases options <;> cases fits
    exact conducts_mean answers _
  | resizeBilinear =>
    cases options <;> cases fits
    exact conducts_resizeBilinear answers _
  | reshape => exact conducts_reshape answers options
  | dequantize => exact conducts_unary answers rfl rfl
  | hardSwish => exact conducts_unary answers rfl rfl
  | logistic => exact conducts_unary answers rfl rfl
  | relu => exact conducts_unary answers rfl rfl
  | relu6 => exact conducts_unary answers rfl rfl
  | tanh => exact conducts_unary answers rfl rfl
  | softmax => exact conducts_unary answers rfl rfl

theorem Recipe.emit_of_unfit {options : BuiltinOptions}
    (unfit : ¬recipe.Fits options) :
    recipe.emit scope inputs options = Fusion.unexpected recipe options := by
  cases recipe <;> cases options <;> first
    | rfl
    | exact absurd trivial unfit

/-- Whatever the options, the graph develops and a result is one of its nodes. -/
theorem Recipe.develops_emit (recipe : Recipe) (options : BuiltinOptions) :
    Conducts (fun _ => True) Graph.HasId (recipe.emit scope inputs options) draft := by
  by_cases fits : recipe.Fits options
  · exact conducts_emit (Scope.answers_of_missing (fun _ => trivial) fun _ => trivial) fits
  · rw [emit_of_unfit fits]
    exact conducts_throw trivial

end Recipes

/-! ## Layouts -/

section Layouts

variable {draft : Draft}

theorem conducts_toEngine (dims : List Int32) (id : NodeId) :
    Conducts (fun _ => True) Graph.HasId (Layout.toEngine dims id) draft := by
  apply conducts_get
  by_cases there : draft.graph.contains id
  · rw [if_pos there]
    by_cases scalar : dims = []
    · rw [if_pos scalar]
      exact conducts_throw trivial
    by_cases high : 4 < dims.length
    · rw [if_neg scalar, if_pos high]
      exact conducts_throw trivial
    rw [if_neg scalar, if_neg high]
    -- the transpose comes last, whether or not a reshape stands before it
    have finish : ∀ {after : Draft} (image : NodeId),
        Conducts (fun _ => True) Graph.HasId
          (do
            let order ← Emit.int32Constant (Layout.toEngineOrder.map Int64.toInt32)
            let result ← Emit.op .transpose [image, order.id]
            pure result.id) after := by
      intro after image
      apply (conducts_int32Constant (by decide)).bind
      intro order last _ _
      exact (conducts_plain (fun _ => trivial) rfl).map fun _ _ shown => shown
    by_cases short : dims.length < 4
    · rw [if_pos short]
      have given : Layout.imageDims dims ≠ [] := by simp [Layout.imageDims, scalar]
      apply (conducts_int32Constant given).bind
      intro pattern first _ _
      apply (conducts_plain (fun _ => trivial) rfl).bind
      intro image second _ _
      simp only [pure_bind]
      exact finish image.id
    · rw [if_neg short]
      simp only [pure_bind]
      exact finish id
  · rw [if_neg there]
    exact conducts_throw trivial

theorem conducts_toHost (id : NodeId) :
    Conducts (fun _ => True) Graph.HasId (Layout.toHost id) draft := by
  apply conducts_get
  cases draft.graph.node? id with
  | none => exact conducts_throw trivial
  | some image =>
    dsimp only
    by_cases four : image.rank = 4
    · rw [if_pos four]
      exact (conducts_transpose (fun _ => trivial) id (by decide)).map fun _ _ shown => shown
    · rw [if_neg four]
      exact conducts_throw trivial

end Layouts

end PartitionLowering
