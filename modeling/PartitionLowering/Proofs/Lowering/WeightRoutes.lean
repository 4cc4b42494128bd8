import PartitionLowering.Proofs.Lowering.Weights

/-!
Weights come into a builder by two routes, as a constant or as a graph input.  Main statement:
`weight_routes_agree`, by which the lowering of a convolution does not tell the routes apart.
-/

set_option autoImplicit false

namespace PartitionLowering

/-! ## Routes -/

inductive Route
  | constant
  | input
  deriving DecidableEq

namespace Route

def other : Route → Route
  | constant => input
  | input => constant

def register : Route → Tensor → OperandIndex → Build Unit
  | constant => Builder.registerConstant
  | input => Builder.registerInput

/-- An operand, unbound and unflagged before, was registered by a route with a tensor of the given type
and dims, and what came since has kept the registration. -/
def Registered (route : Route) (tensor : Tensor) (index : OperandIndex) (builder : Builder) : Prop :=
  ∃ given before after, given.tensorType = tensor.tensorType ∧ given.dims = tensor.dims ∧
    before.registry.node? index = none ∧ before.registry.isFlagged index = false ∧
    route.register given index before = .ok () after ∧
    after.graph.Extends builder.graph ∧
    builder.registry.node? index = after.registry.node? index ∧
    builder.registry.isFlagged index = after.registry.isFlagged index

section Stands

variable {tensor given : Tensor} {index : OperandIndex} {before after : Builder} {elementType : ElementType}

def Stands (builder : Builder) (index : OperandIndex) (elementType : ElementType) (shape : Shape) :
    Prop :=
  ∃ id node, builder.registry.node? index = some id ∧ builder.graph.node? id = some node ∧
    node.elementType = elementType ∧
    node.shape = if builder.registry.isFlagged index then Layout.engineShape shape else shape

theorem stands_constant (typed : Layout.elementType given.tensorType = .ok elementType)
    (shaped : Layout.shape given.dims = .ok tensor.hostShape)
    (unflagged : before.registry.isFlagged index = false)
    (ran : Builder.registerConstant given index before = .ok () after) :
    Stands after index elementType tensor.hostShape := by
  obtain ⟨elementType', shape, data, _, typed', shaped', moves, found⟩ :=
    Builder.registerConstant_eq_ok ran
  rw [typed] at typed'
  rw [shaped] at shaped'
  cases typed'
  cases shaped'
  have plain : after.registry.isFlagged index = false := by
    rw [moves.registry_eq, Registry.isFlagged_bind, unflagged]
  refine ⟨before.graph.size, _, ?_, found, rfl, ?_⟩
  · rw [moves.registry_eq, Registry.node?_bind_self]
  · rw [plain]
    rfl

theorem stands_input (typed : Layout.elementType given.tensorType = .ok elementType)
    (shaped : Layout.shape given.dims = .ok tensor.hostShape)
    (counted : tensor.hostShape.elementCount? ≠ none)
    (ran : Builder.registerInput given index before = .ok () after) :
    Stands after index elementType tensor.hostShape := by
  obtain ⟨elementType', shape, known⟩ := Builder.inputType_of_registerInput ran
  obtain ⟨_, _, _, typed', shaped'⟩ := Builder.inputType_eq_ok.1 known
  rw [typed] at typed'
  rw [shaped] at shaped'
  cases typed'
  cases shaped'
  obtain ⟨id, after', ran', moves, node, found, type⟩ :=
    Builder.registerInput_ok known (.inr counted) before
  have same : after' = after := by
    rw [ran'] at ran
    injection ran
  subst same
  have flagged : after'.registry.isFlagged index = true := by
    rw [moves.registry_eq, Registry.isFlagged_flag]
    simp
  refine ⟨id, node, ?_, found, congrArg Prod.snd type, ?_⟩
  · rw [moves.registry_eq, Registry.node?_flag, Registry.node?_bind_self]
  · rw [flagged]
    exact congrArg Prod.fst type

end Stands

theorem Registered.stands {route : Route} {tensor : Tensor} {index : OperandIndex} {builder : Builder}
    (registered : route.Registered tensor index builder) {tensors : TensorContext}
    (admitted : Support.Admitted tensors index tensor) (float : tensor.tensorType = .float32) :
    Stands builder index .f32 tensor.hostShape := by
  obtain ⟨given, before, after, sameType, sameDims, _, unflagged, ran, grown, bound, flag⟩ := registered
  have typed : Layout.elementType given.tensorType = .ok .f32 := by
    rw [sameType, float]
    rfl
  have shaped : Layout.shape given.dims = .ok tensor.hostShape := by
    rw [sameDims]
    exact admitted.shape
  have stood : Stands after index .f32 tensor.hostShape := by
    cases route with
    | constant => exact stands_constant typed shaped unflagged ran
    | input => exact stands_input typed shaped admitted.elementCount? ran
  obtain ⟨id, node, bound', found, element, shape⟩ := stood
  refine ⟨id, node, bound.trans bound', grown.node? found, element, ?_⟩
  rw [flag]
  exact shape

end Route

/-! ## Operands of a convolution -/

namespace Recipe

def isConvolution : Recipe → Bool
  | conv2d | depthwiseConv2d | transposeConv | transposeConvBias => true
  | _ => false

/-- Where the data stands among the inputs; the filter of every convolution stands second. -/
def dataPosition : Recipe → Nat
  | transposeConv => 2
  | _ => 0

def biasPosition : Recipe → Nat
  | transposeConv => 3
  | _ => 2

theorem convolution_cases {recipe : Recipe} (convolves : recipe.isConvolution = true) :
    recipe = conv2d ∨ recipe = depthwiseConv2d ∨ recipe = transposeConv ∨
      recipe = transposeConvBias := by
  cases recipe <;> simp [isConvolution] at convolves ⊢

theorem eq_of_ofOpCode {op : OpCode} {recipe : Recipe} (known : ofOpCode op = .ok recipe) :
    ofOpCode? op = some recipe := by
  rw [ofOpCode] at known
  cases found : ofOpCode? op with
  | none => simp [found] at known
  | some other => simpa [found] using known

/-- The operators of convolutions. -/
theorem convolution_op {op : OpCode} {recipe : Recipe} (known : ofOpCode op = .ok recipe)
    (convolves : recipe.isConvolution = true) :
    (op = .builtin .conv2d ∧ recipe = conv2d) ∨
      (op = .builtin .depthwiseConv2d ∧ recipe = depthwiseConv2d) ∨
        (op = .builtin .transposeConv ∧ recipe = transposeConv) ∨
          (op = .custom OpCode.transposeConvBiasName ∧ recipe = transposeConvBias) := by
  have found := eq_of_ofOpCode known
  cases op with
  | builtin operator => cases operator <;> cases found <;> simp [isConvolution] at convolves ⊢
  | custom name =>
    rw [ofOpCode?] at found
    by_cases same : name = OpCode.transposeConvBiasName
    · rw [if_pos same] at found
      cases found
      simp [same]
    · rw [if_neg same] at found
      cases found

end Recipe

section Accepted

variable {op : OpCode} {recipe : Recipe} {inputs : List OperandIndex} {options : BuiltinOptions}
  {tensors : TensorContext}

/-- A rule that asks for single-precision weights, of rank four at the second position and of rank one
at the last. -/
theorem accepted_by_rule {types : List (List TensorType)} {ranks : List (List Nat)} (last : Nat)
    (accepted : Support.check op inputs options tensors = .ok ())
    (ruled : Support.rule? op inputs.length = some ⟨types, some ranks⟩)
    (filterTypes : types[1]? = some [.float32]) (filterRanks : ranks[1]? = some [4])
    (bias : ranks.length = last ∨ types[last]? = some [.float32] ∧ ranks[last]? = some [1]) :
    inputs.length = ranks.length ∧
      ∀ (position : Nat) (index : OperandIndex), inputs[position]? = some index →
        ∃ tensor, Support.Admitted tensors index tensor ∧
          (position = 1 → tensor.tensorType = .float32 ∧ tensor.rank = 4) ∧
            (position = last → tensor.tensorType = .float32 ∧ tensor.rank = 1) := by
  obtain ⟨count, each⟩ := Support.of_check_ranked accepted ruled
  refine ⟨count, ?_⟩
  intro position index here
  obtain ⟨tensor, admitted, typed, ranked⟩ := each position index here
  refine ⟨tensor, admitted, ?_, ?_⟩
  · rintro rfl
    exact ⟨List.mem_singleton.1 (typed _ filterTypes), List.mem_singleton.1 (ranked _ filterRanks)⟩
  · rintro rfl
    rcases bias with past | ⟨biasTypes, biasRanks⟩
    · have absent : inputs[position]? = none := List.getElem?_eq_none_iff.2 (by omega)
      rw [absent] at here
      cases here
    · exact ⟨List.mem_singleton.1 (typed _ biasTypes), List.mem_singleton.1 (ranked _ biasRanks)⟩

/-- What a check says of the operands of a convolution: the data and the filter are there, a bias stands
last, and weights are numbers of single precision. -/
structure Recipe.Fed (recipe : Recipe) (inputs : List OperandIndex) (tensors : TensorContext) : Prop where
  count : inputs.length = recipe.biasPosition ∧ recipe ≠ .transposeConvBias ∨
    inputs.length = recipe.biasPosition + 1
  each : ∀ (position : Nat) (index : OperandIndex), inputs[position]? = some index →
    ∃ tensor, Support.Admitted tensors index tensor ∧
      (position = 1 → tensor.tensorType = .float32 ∧ tensor.rank = 4) ∧
        (position = recipe.biasPosition → tensor.tensorType = .float32 ∧ tensor.rank = 1)

/-- Two rules, of which the second takes a bias after what the first one takes. -/
theorem fed_of_rules {types : List (List TensorType)} {ranks : List (List Nat)}
    (accepted : Support.check op inputs options tensors = .ok ())
    (ruled : Support.rule? op inputs.length =
      some (if inputs.length = recipe.biasPosition then ⟨types, some ranks⟩
        else ⟨types ++ [[.float32]], some (ranks ++ [[1]])⟩))
    (typeCount : types.length = recipe.biasPosition) (rankCount : ranks.length = recipe.biasPosition)
    (filterTypes : types[1]? = some [.float32]) (filterRanks : ranks[1]? = some [4])
    (builtin : recipe ≠ .transposeConvBias) : recipe.Fed inputs tensors := by
  by_cases short : inputs.length = recipe.biasPosition
  · rw [if_pos short] at ruled
    obtain ⟨_, each⟩ := accepted_by_rule recipe.biasPosition accepted ruled filterTypes filterRanks
      (.inl rankCount)
    exact ⟨.inl ⟨short, builtin⟩, each⟩
  · rw [if_neg short] at ruled
    have inside : 1 < types.length ∧ 1 < ranks.length :=
      ⟨(List.getElem?_eq_some_iff.1 filterTypes).1, (List.getElem?_eq_some_iff.1 filterRanks).1⟩
    obtain ⟨count, each⟩ := accepted_by_rule recipe.biasPosition accepted ruled
      (by rw [List.getElem?_append_left inside.1, filterTypes])
      (by rw [List.getElem?_append_left inside.2, filterRanks])
      (.inr ⟨by simp [← typeCount], by simp [← rankCount]⟩)
    refine ⟨.inr ?_, each⟩
    rw [count, List.length_append, rankCount, List.length_singleton]

theorem accepted_convolution (known : Recipe.ofOpCode op = .ok recipe)
    (convolves : recipe.isConvolution = true)
    (accepted : Support.check op inputs options tensors = .ok ()) : recipe.Fed inputs tensors := by
  rcases Recipe.convolution_op known convolves with
    ⟨rfl, rfl⟩ | ⟨rfl, rfl⟩ | ⟨rfl, rfl⟩ | ⟨rfl, rfl⟩
  · exact fed_of_rules accepted rfl rfl rfl rfl rfl nofun
  · exact fed_of_rules accepted rfl rfl rfl rfl rfl nofun
  · exact fed_of_rules accepted rfl rfl rfl rfl rfl nofun
  · -- the custom operator has one rule, and a bias always
    have ruled : Support.rule? (.custom OpCode.transposeConvBiasName) inputs.length =
        some Support.convBiasRule := by
      simp [Support.rule?]
    obtain ⟨count, each⟩ := accepted_by_rule 2 accepted ruled rfl rfl (.inr ⟨rfl, rfl⟩)
    exact ⟨.inr count, each⟩

end Accepted

/-! ## Both routes -/

/-- The operands of a convolution as a builder's nodes: data of the given type, a filter of the given
host shape, and the bias where there is one. -/
structure Scope.Convolution (scope : Scope) (graph : Graph) (inputs : List OperandIndex)
    (recipe : Recipe) (data : OutputType) (outer height width inner : Nat) (bias : Option Int32) :
    Prop where
  data : scope.Data graph inputs recipe.dataPosition data
  filter : scope.Weight graph inputs 1 [outer, height, width, inner]
  bias : scope.Bias graph inputs recipe.biasPosition bias

section Agreement

variable {scope scope' : Scope} {graph graph' : Graph} {inputs : List OperandIndex} {recipe : Recipe}
  {data : OutputType} {outer height width inner : Nat} {bias : Option Int32}

/-- Told on types, a convolution does not depend on the layout in which its weights stand. -/
theorem typing_agree (convolves : recipe.isConvolution = true)
    (first : scope.Convolution graph inputs recipe data outer height width inner bias)
    (second : scope'.Convolution graph' inputs recipe data outer height width inner bias)
    (tensors : scope.tensors = scope'.tensors) (biased : recipe = .transposeConvBias → bias ≠ none)
    (options : BuiltinOptions) :
    recipe.typing scope graph inputs options = recipe.typing scope' graph' inputs options := by
  have dims : ∀ recipe position, scope.dims recipe inputs position =
      scope'.dims recipe inputs position := by
    intro recipe position
    rw [Scope.dims, Scope.dims, tensors]
  have outputs : Emission.outputDims scope inputs = Emission.outputDims scope' inputs := by
    rw [Emission.outputDims, Emission.outputDims, tensors]
  rcases Recipe.convolution_cases convolves with rfl | rfl | rfl | rfl
  · cases options with
    | conv2d options =>
      exact (conv2d_eq first.data first.filter first.bias options).trans
        (conv2d_eq second.data second.filter second.bias options).symm
    | _ => rfl
  · cases options with
    | depthwiseConv2d options =>
      have left := depthwiseConv2d_eq first.data first.filter first.bias options
      have right := depthwiseConv2d_eq second.data second.filter second.bias options
      rw [dims] at left
      exact left.trans right.symm
    | _ => rfl
  · cases options with
    | transposeConv options =>
      have left := transposeConv_eq first.data first.filter first.bias options
      have right := transposeConv_eq second.data second.filter second.bias options
      rw [outputs] at left
      exact left.trans right.symm
    | _ => rfl
  · obtain ⟨channels, rfl⟩ := Option.ne_none_iff_exists'.1 (biased rfl)
    cases options with
    | transposeConv options =>
      have left := transposeConvBias_eq first.data first.filter first.bias options
      have right := transposeConvBias_eq second.data second.filter second.bias options
      rw [dims] at left
      exact left.trans right.symm
    | _ => rfl

theorem one_filter (convolves : recipe.isConvolution = true)
    (operands : scope.Convolution graph inputs recipe data outer height width inner bias)
    (biased : recipe = .transposeConvBias → bias ≠ none) {options : BuiltinOptions}
    {type : OutputType} {uses : List FilterUse}
    (success : (recipe.typing scope graph inputs options).run [] = .ok (type, uses)) :
    ∃ operation filter, uses = [⟨operation, some filter⟩] := by
  rcases Recipe.convolution_cases convolves with rfl | rfl | rfl | rfl
  · cases options with
    | conv2d options =>
      change (Typing.conv2d scope graph inputs (.conv2d options)).run [] = _ at success
      rw [conv2d_eq operands.data operands.filter operands.bias] at success
      obtain ⟨_, _, _, _, _, _, _, _, _, rfl⟩ := Typing.of_convolved success
      exact ⟨_, _, rfl⟩
    | _ => cases success
  · cases options with
    | depthwiseConv2d options =>
      change (Typing.depthwiseConv2d scope graph inputs (.depthwiseConv2d options)).run [] = _ at success
      rw [depthwiseConv2d_eq operands.data operands.filter operands.bias] at success
      obtain ⟨_, _, _, _, _, _, _, _, _, _, _, _, _, _, _, _, _, rfl⟩ :=
        Typing.of_convolvedDepthwise success
      exact ⟨_, _, rfl⟩
    | _ => cases success
  · cases options with
    | transposeConv options =>
      change (Typing.transposeConv scope graph inputs (.transposeConv options)).run [] = _ at success
      rw [transposeConv_eq operands.data operands.filter operands.bias] at success
      obtain ⟨_, _, _, _, _, _, _, spread, _, rfl⟩ := Typing.of_spreadTo success
      obtain ⟨_, _, _, rfl⟩ := Typing.of_spread spread
      exact ⟨_, _, rfl⟩
    | _ => cases success
  · obtain ⟨channels, rfl⟩ := Option.ne_none_iff_exists'.1 (biased rfl)
    cases options with
    | transposeConv options =>
      change (Typing.transposeConvBias scope graph inputs (.transposeConv options)).run [] = _ at success
      rw [transposeConvBias_eq operands.data operands.filter operands.bias] at success
      obtain ⟨_, _, _, _, _, _, _, spread, _, rfl⟩ := Typing.of_spreadTwice success
      obtain ⟨_, _, _, rfl⟩ := Typing.of_spread spread
      exact ⟨_, _, rfl⟩
    | _ => cases success

end Agreement

section Builders

variable {builder : Builder} {inputs : List OperandIndex} {recipe : Recipe} {tensors : TensorContext}

def Recipe.IsWeight (recipe : Recipe) (position : Nat) : Prop :=
  position = 1 ∨ position = recipe.biasPosition

/-- A builder holds the data of a convolution as a node of the given type, and has taken in the weights
by routes of their own. -/
structure Builder.Holds (builder : Builder) (inputs : List OperandIndex) (recipe : Recipe)
    (tensors : TensorContext) (type : OutputType) (routes : OperandIndex → Route) : Prop where
  data : ∀ index, inputs[recipe.dataPosition]? = some index →
    ∃ id, builder.registry.node? index = some id ∧ builder.graph.Typed id type
  weights : ∀ position index tensor, recipe.IsWeight position → inputs[position]? = some index →
    tensors.get? index = some tensor → (routes index).Registered tensor index builder

theorem isFlagged_at {registry : Registry} {position : Nat} {index : OperandIndex}
    (here : inputs[position]? = some index) :
    Scope.isFlagged ⟨registry, tensors⟩ inputs position = registry.isFlagged index := by
  rw [Scope.isFlagged, here]
  rfl

theorem weight_of_registered {route : Route} {position : Nat} {index : OperandIndex} {tensor : Tensor}
    (registered : route.Registered tensor index builder) (here : inputs[position]? = some index)
    (admitted : Support.Admitted tensors index tensor) (float : tensor.tensorType = .float32) :
    Scope.Weight ⟨builder.registry, tensors⟩ builder.graph inputs position
      tensor.hostShape := by
  obtain ⟨id, node, bound, found, element, shape⟩ := registered.stands admitted float
  refine ⟨node, ⟨index, id, here, admitted.valid, bound, found⟩, element, ?_⟩
  rw [isFlagged_at here]
  exact shape

/-- Weights of one dim stand for a bias. -/
theorem bias_of_weight {position : Nat} {index : OperandIndex} {tensor : Tensor} {channels : Int32}
    (here : inputs[position]? = some index) (admitted : Support.Admitted tensors index tensor)
    (dims : tensor.dims = [channels])
    (weight : Scope.Weight ⟨builder.registry, tensors⟩ builder.graph inputs position tensor.hostShape) :
    Scope.Bias ⟨builder.registry, tensors⟩ builder.graph inputs position (some channels) := by
  have single : tensor.hostShape = [channels.toInt.toNat] := by
    rw [Tensor.hostShape, dims]
    rfl
  rw [single] at weight
  refine ⟨admitted.positive channels (by simp [dims]), weight, ?_⟩
  intro recipe
  simp [Scope.dims, Scope.operand, here, Scope.tensor, admitted.known, dims]

theorem exists_filter_extents {tensor : Tensor} (rank : tensor.rank = 4) :
    ∃ outer height width inner, tensor.hostShape = [outer, height, width, inner] := by
  have four : tensor.hostShape.length = 4 := by
    rw [Tensor.hostShape, List.length_map]
    exact rank
  exact Shape.exists_image four

namespace Recipe.Fed

theorem positions (convolves : recipe.isConvolution = true) :
    1 < recipe.biasPosition ∧ recipe.dataPosition < recipe.biasPosition := by
  rcases Recipe.convolution_cases convolves with rfl | rfl | rfl | rfl <;> decide

variable (fed : recipe.Fed inputs tensors)

include fed

theorem exists_input {position : Nat} (below : position < recipe.biasPosition) :
    ∃ index, inputs[position]? = some index := by
  have inside : position < inputs.length := by
    have count := fed.count
    omega
  exact ⟨_, List.getElem?_eq_getElem inside⟩

theorem exists_data (convolves : recipe.isConvolution = true) {type : OutputType}
    {routes : OperandIndex → Route} (holds : builder.Holds inputs recipe tensors type routes) :
    Scope.Data ⟨builder.registry, tensors⟩ builder.graph inputs recipe.dataPosition type := by
  obtain ⟨index, here⟩ := fed.exists_input (positions convolves).2
  obtain ⟨tensor, admitted, _⟩ := fed.each _ _ here
  obtain ⟨id, bound, node, found, same⟩ := holds.data _ here
  exact ⟨node, ⟨index, id, here, admitted.valid, bound, found⟩, same⟩

theorem exists_filter (convolves : recipe.isConvolution = true) :
    ∃ outer height width inner, ∀ (builder : Builder) (type : OutputType)
      (routes : OperandIndex → Route), builder.Holds inputs recipe tensors type routes →
        Scope.Weight ⟨builder.registry, tensors⟩ builder.graph inputs 1 [outer, height, width, inner] := by
  obtain ⟨index, here⟩ := fed.exists_input (positions convolves).1
  obtain ⟨filter, admitted, rule, _⟩ := fed.each _ _ here
  obtain ⟨float, rank⟩ := rule rfl
  obtain ⟨outer, height, width, inner, extents⟩ := exists_filter_extents rank
  refine ⟨outer, height, width, inner, ?_⟩
  intro builder type routes holds
  rw [← extents]
  exact weight_of_registered (holds.weights 1 _ filter (.inl rfl) here admitted.known) here admitted float

theorem exists_bias :
    ∃ bias, (recipe = .transposeConvBias → bias ≠ none) ∧ ∀ (builder : Builder) (type : OutputType)
      (routes : OperandIndex → Route), builder.Holds inputs recipe tensors type routes →
        Scope.Bias ⟨builder.registry, tensors⟩ builder.graph inputs recipe.biasPosition bias := by
  rcases fed.count with ⟨short, builtin⟩ | full
  · -- no operand stands where a bias would
    refine ⟨none, fun custom => absurd custom builtin, ?_⟩
    intro builder type routes holds
    exact List.getElem?_eq_none_iff.2 (Nat.le_of_eq short)
  · have here := List.getElem?_eq_getElem (show recipe.biasPosition < inputs.length by omega)
    obtain ⟨bias, admitted, _, rule⟩ := fed.each _ _ here
    obtain ⟨float, rank⟩ := rule rfl
    obtain ⟨channels, dims⟩ := List.length_eq_one_iff.1 rank
    refine ⟨some channels, nofun, ?_⟩
    intro builder type routes holds
    have registered := holds.weights _ _ bias (.inr rfl) here admitted.known
    exact bias_of_weight here admitted dims (weight_of_registered registered here admitted float)

/-- The extents of the filter and the channels of the bias are those of the tensors, by whatever routes
they came in. -/
theorem exists_extents (convolves : recipe.isConvolution = true) :
    ∃ outer height width inner bias, (recipe = .transposeConvBias → bias ≠ none) ∧
      ∀ (builder : Builder) (type : OutputType) (routes : OperandIndex → Route),
        builder.Holds inputs recipe tensors type routes →
          Scope.Convolution ⟨builder.registry, tensors⟩ builder.graph inputs recipe type outer height
            width inner bias := by
  obtain ⟨outer, height, width, inner, filtered⟩ := fed.exists_filter convolves
  obtain ⟨bias, biased, added⟩ := fed.exists_bias
  refine ⟨outer, height, width, inner, bias, biased, ?_⟩
  intro builder type routes holds
  exact ⟨fed.exists_data convolves holds, filtered builder type routes holds,
    added builder type routes holds⟩

end Recipe.Fed

/-- Every operand that a convolution reads as a node has one. -/
theorem Builder.Holds.live {builder : Builder} {type : OutputType} {routes : OperandIndex → Route}
    (holds : builder.Holds inputs recipe tensors type routes)
    (convolves : recipe.isConvolution = true) (fed : recipe.Fed inputs tensors)
    {position : Nat} (read : recipe = .transposeConv → 0 < position) :
    Scope.Live ⟨builder.registry, tensors⟩ builder.graph inputs position := by
  intro index id here _ bound
  have below : position < inputs.length := (List.getElem?_eq_some_iff.1 here).1
  have role : position = recipe.dataPosition ∨ recipe.IsWeight position := by
    have count := fed.count
    rw [Recipe.IsWeight]
    rcases Recipe.convolution_cases convolves with rfl | rfl | rfl | rfl
    all_goals simp only [Recipe.biasPosition, Recipe.dataPosition, forall_const] at *
    all_goals omega
  have bound : builder.registry.node? index = some id := bound
  rcases role with rfl | weight
  · obtain ⟨id', bound', node, found, _⟩ := holds.data index here
    rw [bound] at bound'
    cases bound'
    exact Graph.lt_size_of_node? found
  · obtain ⟨tensor, admitted, second, last⟩ := fed.each position index here
    have float : tensor.tensorType = .float32 := by
      rcases weight with rfl | rfl
      · exact (second rfl).1
      · exact (last rfl).1
    have registered := holds.weights position index tensor weight here admitted.known
    obtain ⟨id', node, bound', found, _, _⟩ := registered.stands admitted float
    rw [bound] at bound'
    cases bound'
    exact Graph.lt_size_of_node? found

end Builders

/-- Where two builders hold the data of an accepted convolution as nodes of one type, and each of its
weights has come into one of them as a constant and into the other as a graph input, the convolution
fails in both for the same reason, or is lowered in both: with one operation of the same attributes and
filter shape, and with outputs of the same type. -/
theorem weight_routes_agree (id : Int32) (node : ScheduledNode) (recipe : Recipe)
    (tensors : TensorContext) (first second : Builder) (type : OutputType)
    (routes : OperandIndex → Route) (known : Recipe.ofOpCode node.op = .ok recipe)
    (convolves : recipe.isConvolution = true)
    (accepted : Support.check node.op node.inputs node.options tensors = .ok ())
    (valid : 0 ≤ id) (outputs : node.outputs ≠ [])
    (left : first.Holds node.inputs recipe tensors type routes)
    (right : second.Holds node.inputs recipe tensors type fun index => (routes index).other) :
    (∃ failure after after', Builder.lowerNode id node tensors first = .error failure after ∧
        Builder.lowerNode id node tensors second = .error failure after') ∨
      ∃ after after' output result result' told operation filter,
        Builder.lowerNode id node tensors first = .ok () after ∧
        Builder.lowerNode id node tensors second = .ok () after' ∧
        after.graph.filterUsesFrom first.graph.size = [⟨operation, some filter⟩] ∧
        after'.graph.filterUsesFrom second.graph.size = [⟨operation, some filter⟩] ∧
        node.outputs.head? = some output ∧
        after.registry.node? output = some result ∧ after.graph.Typed result told ∧
        after'.registry.node? output = some result' ∧ after'.graph.Typed result' told := by
  have fed := accepted_convolution known convolves accepted
  obtain ⟨outer, height, width, inner, bias, biased, operands⟩ := fed.exists_extents convolves
  have held := operands first type _ left
  have held' := operands second type _ right
  have same := typing_agree convolves held held' rfl biased node.options
  have ends : Ends Graph.Typed (recipe.emit ⟨first.registry, tensors⟩ node.inputs node.options)
      first.draft (recipe.typing ⟨first.registry, tensors⟩ first.graph node.inputs node.options) :=
    Recipe.ends_emit recipe node.options fun position read => left.live convolves fed read
  have ends' : Ends Graph.Typed (recipe.emit ⟨second.registry, tensors⟩ node.inputs node.options)
      second.draft (recipe.typing ⟨second.registry, tensors⟩ second.graph node.inputs node.options) :=
    Recipe.ends_emit recipe node.options fun position read => right.live convolves fed read
  rw [← same] at ends'
  obtain ⟨output, _, split⟩ := List.exists_cons_of_ne_nil outputs
  have head : node.outputs.head? = some output := by rw [split, List.head?_cons]
  have target : Builder.target id node = .ok (output, recipe) :=
    Builder.target_eq_ok.2 ⟨valid, head, known⟩
  cases outcome : (recipe.typing ⟨first.registry, tensors⟩ first.graph node.inputs node.options).run
      [] with
  | error failure =>
    left
    obtain ⟨after, ran⟩ := Builder.lowerNode_of_refused target ends outcome
    obtain ⟨after', ran'⟩ := Builder.lowerNode_of_refused target ends' outcome
    exact ⟨failure, after, after', ran, ran'⟩
  | ok told =>
    right
    obtain ⟨told, uses⟩ := told
    obtain ⟨operation, filter, rfl⟩ := one_filter convolves held biased outcome
    obtain ⟨after, result, ran, one, bound, typed⟩ := Builder.lowerNode_of_told target ends outcome
    obtain ⟨after', result', ran', one', bound', typed'⟩ :=
      Builder.lowerNode_of_told target ends' outcome
    exact ⟨after, after', output, result, result', told, operation, filter, ran, ran', one, one', head,
      bound, typed, bound', typed'⟩

/-! ### An image of five by seven pixels and two channels -/

namespace RouteExample

def image : Tensor := { tensorType := .float32, dims := [1, 5, 7, 2] }

def filter : Tensor := Tensor.constantFloat32 [3, 1, 2, 2] (List.replicate 12 1)

def bias : Tensor := Tensor.constantFloat32 [3] [1, 2, 3]

def tensors : TensorContext := OperandMap.ofList [(0, image), (1, filter), (2, bias)]

def node : ScheduledNode where
  id := 0
  op := .builtin .conv2d
  inputs := [0, 1, 2]
  outputs := [3]
  options := .conv2d { padding := .valid, strideWidth := 2, activation := .relu6 }

def after (step : Build Unit) (builder : Builder) : Builder :=
  match step builder with
  | .ok _ later => later
  | .error _ later => later

def succeeds (step : Build Unit) (builder : Builder) : Bool :=
  match step builder with
  | .ok _ _ => true
  | .error _ _ => false

theorem run_eq_after {step : Build Unit} {builder : Builder} (success : succeeds step builder = true) :
    step builder = .ok () (after step builder) := by
  unfold succeeds at success
  unfold after
  cases run : step builder with
  | error failure later => simp [run] at success
  | ok value later => rfl

theorem fails_of_error {step : Build Unit} {builder later : Builder} {failure : Failure}
    (run : step builder = .error failure later) : succeeds step builder = false := by
  unfold succeeds
  rw [run]

def start : Builder := after (Builder.registerInput image 0) {}

def withFilter (route : Route) : Builder := after (route.register filter 1) start

def withBias (route : Route) : Builder := after (route.register bias 2) (withFilter route)

theorem holds (route : Route) :
    (withBias route).Holds node.inputs .conv2d tensors ([1, 2, 5, 7], .f32) fun _ => route := by
  have filtered : succeeds (route.register filter 1) start = true := by
    cases route <;> decide +kernel
  have biased : succeeds (route.register bias 2) (withFilter route) = true := by
    cases route <;> decide +kernel
  have grown : (withFilter route).graph.Extends (withBias route).graph := by
    unfold Graph.Extends
    cases route <;> decide +kernel
  constructor
  · intro index here
    cases here
    refine ⟨2, ?_, ?_⟩
    · cases route <;> decide +kernel
    · cases route <;> exact ⟨_, rfl, by decide +kernel⟩
  · rintro position index tensor (rfl | rfl) here known
    · cases here
      cases known
      refine ⟨filter, start, withFilter route, rfl, rfl, ?_, ?_, run_eq_after filtered, grown, ?_, ?_⟩
      · decide +kernel
      · decide +kernel
      · cases route <;> decide +kernel
      · cases route <;> decide +kernel
    · cases here
      cases known
      refine ⟨bias, withFilter route, withBias route, rfl, rfl, ?_, ?_, run_eq_after biased, .refl _, rfl,
        rfl⟩
      · cases route <;> decide +kernel
      · cases route <;> decide +kernel

end RouteExample

open RouteExample in
theorem weight_routes_agree_conv2d :
    ∃ after after' use, Builder.lowerNode 0 node tensors (withBias .constant) = .ok () after ∧
      Builder.lowerNode 0 node tensors (withBias .input) = .ok () after' ∧
      after.graph.filterUsesFrom (withBias .constant).graph.size = [use] ∧
      after'.graph.filterUsesFrom (withBias .input).graph.size = [use] := by
  have lowered : succeeds (Builder.lowerNode 0 node tensors) (withBias .constant) = true := by
    decide +kernel
  have outputs : node.outputs ≠ [] := by decide
  rcases weight_routes_agree 0 node .conv2d tensors _ _ _ (fun _ => .constant) rfl rfl rfl (by decide)
    outputs (holds .constant) (holds .input) with
    ⟨failure, after, _, ran, _⟩ | ⟨after, after', _, _, _, _, _, _, ran, ran', one, one', _⟩
  · rw [fails_of_error ran] at lowered
    cases lowered
  · exact ⟨after, after', _, ran, ran', one, one'⟩

end PartitionLowering
