import PartitionLowering.Lowering.Emission
import PartitionLowering.Proofs.Engine.Growth

/-!
Lowering told on types.  Each part of a lowering has a counterpart here that emits nothing: from the
nodes that operands are bound to it tells the type of the output, or why there is none, and which
convolutions come up on the way.  `Recipe.typing` is the counterpart of `Recipe.emit`.
-/

set_option autoImplicit false

namespace PartitionLowering

/-- Steps on types; the state lists the convolutions so far. -/
abbrev Typing := StateT (List FilterUse) (Except Failure)

namespace Typing

def op (op : Op) (nodes : List Node) : Typing OutputType :=
  match op.infer nodes with
  | .ok type => do
    modify (· ++ op.filterUses nodes)
    return type
  | .error error => throw (.obstructed (.shape error))

def transpose (node : Node) (order : List Int64) : Typing OutputType :=
  op .transpose [node, .ofInt64s order]

/-! ## Operands -/

def nodeOf (graph : Graph) (id : NodeId) : Except Failure Node :=
  match graph.node? id with
  | some node => .ok node
  | none => .error (.obstructed (.shape (.unknownNode id)))

section Operands

variable (scope : Scope) (graph : Graph) (inputs : List OperandIndex)

def input (recipe : Recipe) (position : Nat) : Except Failure Node := do
  nodeOf graph (← scope.input recipe inputs position)

def optionalInput (position : Nat) : Except Failure (Option Node) := do
  match ← scope.optionalInput inputs position with
  | none => return none
  | some id => some <$> nodeOf graph id

def allInputs (recipe : Recipe) : Except Failure (List Node) :=
  (List.range inputs.length).mapM fun position => input scope graph inputs recipe position

/-! ## Fused parts -/

def activate (type : OutputType) (activation : Activation) : Typing OutputType := do
  match ← Fusion.activationOp activation with
  | none => return type
  | some operation => op operation [.ofType type]

def addBias (producer : OutputType) (bias : Node) : List Int32 → Typing OutputType
  | [] => throw (.obstructed .biasWithoutDims)
  | channels :: _ => do
    let pattern := Node.ofInt32s (Fusion.biasPattern producer.1.length channels)
    let bias ← op (.reshape true) [bias, pattern]
    op .add [.ofType producer, .ofType bias]

def addOptionalBias (recipe : Recipe) (position : Nat) (producer : OutputType) :
    Typing OutputType := do
  match ← optionalInput scope graph inputs position with
  | none => return producer
  | some bias => do
    let dims ← scope.dims recipe inputs position
    addBias producer bias dims

/-! ## Recipes -/

def unary (recipe : Recipe) (operation : Op) : Typing OutputType := do
  let data ← input scope graph inputs recipe 0
  op operation [data]

def binary (recipe : Recipe) (operation : Op) (activation : Activation) : Typing OutputType := do
  let lhs ← input scope graph inputs recipe 0
  let rhs ← input scope graph inputs recipe 1
  let result ← op operation [lhs, rhs]
  activate result activation

def add : BuiltinOptions → Typing OutputType
  | .add options => binary scope graph inputs .add .add options.activation
  | options => throw (.invalidArgument (.optionsOfRecipe .add options))

def mul : BuiltinOptions → Typing OutputType
  | .mul options => binary scope graph inputs .mul .multiply options.activation
  | options => throw (.invalidArgument (.optionsOfRecipe .mul options))

def averagePool2d : BuiltinOptions → Typing OutputType
  | .pool2d options => do
    let data ← input scope graph inputs .averagePool2d 0
    let padMode ← Fusion.padMode options.padding
    let attributes ← Emission.poolAttributes .averagePool2d options padMode
    let result ← op (.avgPool attributes true) [data]
    activate result options.activation
  | options => throw (.invalidArgument (.optionsOfRecipe .averagePool2d options))

def maxPool2d : BuiltinOptions → Typing OutputType
  | .pool2d options => do
    let data ← input scope graph inputs .maxPool2d 0
    let padMode := if options.padding = .same then PadMode.sameUpper else .valid
    let attributes ← Emission.poolAttributes .maxPool2d options padMode
    let result ← op (.maxPool attributes) [data]
    activate result options.activation
  | options => throw (.invalidArgument (.optionsOfRecipe .maxPool2d options))

def concatenation : BuiltinOptions → Typing OutputType
  | .concatenation options =>
    if inputs.length < 2 then throw (.obstructed .fewParts)
    else do
      let parts ← allInputs scope graph inputs .concatenation
      let result ← op (.concat 1) parts
      activate result options.activation
  | options => throw (.invalidArgument (.optionsOfRecipe .concatenation options))

def optionPattern : BuiltinOptions → Except Failure Node
  | .reshape options =>
    if options.newShape = [] then throw (.obstructed .noTargetShape)
    else return .ofInt32s options.newShape
  | _ => throw (.obstructed .noTargetShape)

def reshape (options : BuiltinOptions) : Typing OutputType := do
  let data ← input scope graph inputs .reshape 0
  let pattern ← match ← optionalInput scope graph inputs 1 with
    | some pattern => pure pattern
    | none => optionPattern options
  op (.reshape false) [data, pattern]

def resizeBilinear : BuiltinOptions → Typing OutputType
  | .resizeBilinear options => do
    let data ← input scope graph inputs .resizeBilinear 0
    let sizes ← input scope graph inputs .resizeBilinear 1
    op (.interpolate (Emission.coordinateMode options)) [data, sizes, .ofInt32s [2, 3]]
  | options => throw (.invalidArgument (.optionsOfRecipe .resizeBilinear options))

def mean : BuiltinOptions → Typing OutputType
  | .reducer options => do
    let data ← input scope graph inputs .mean 0
    let axes ← Emission.meanAxes scope inputs
    op (.reduceMean options.keepDims) [data, .ofInt32s (axes.map Emission.engineAxis)]
  | options => throw (.invalidArgument (.optionsOfRecipe .mean options))

/-! ## Convolutions -/

def convFilter (filter : Node) : Typing OutputType :=
  if scope.isFlagged inputs 1 then return filter.outputType
  else transpose filter Layout.toEngineOrder

def conv2d : BuiltinOptions → Typing OutputType
  | .conv2d options => do
    let data ← input scope graph inputs .conv2d 0
    let filter ← input scope graph inputs .conv2d 1
    let filter ← convFilter scope inputs filter
    let strides ← Fusion.strides .conv2d options.strideHeight options.strideWidth
    let dilations ←
      Fusion.dilations .conv2d options.dilationHeightFactor options.dilationWidthFactor
    let padMode ← Fusion.padMode options.padding
    let result ← op (.convolution ⟨strides, dilations, padMode⟩) [data, .ofType filter]
    let result ← addOptionalBias scope graph inputs .conv2d 2 result
    activate result options.activation
  | options => throw (.invalidArgument (.optionsOfRecipe .conv2d options))

/-- The filter of a depthwise or a transposed convolution with its outer extents in the engine's
order. -/
def orderedFilter (position : Nat) (filter : Node) : Typing OutputType :=
  transpose filter
    (if scope.isFlagged inputs position then Emission.swapOuterAxes else Emission.lastAxisFirst)

def depthwiseConv2d : BuiltinOptions → Typing OutputType
  | .depthwiseConv2d options => do
    let data ← input scope graph inputs .depthwiseConv2d 0
    let filter ← input scope graph inputs .depthwiseConv2d 1
    let filter ← orderedFilter scope inputs 1 filter
    let channels ← Emission.inputChannels (← scope.dims .depthwiseConv2d inputs 0)
    let grouped ← Emission.groupedShape channels filter.1
    let filter ← op (.reshape false) [.ofType filter, .ofInt64s (grouped.map Int64.ofNat)]
    let strides ← Fusion.strides .depthwiseConv2d options.strideHeight options.strideWidth
    let dilations ←
      Fusion.dilations .depthwiseConv2d options.dilationHeightFactor options.dilationWidthFactor
    let padMode ← Fusion.padMode options.padding
    let result ← op (.groupConvolution ⟨strides, dilations, padMode⟩) [data, .ofType filter]
    let result ← addOptionalBias scope graph inputs .depthwiseConv2d 2 result
    activate result options.activation
  | options => throw (.invalidArgument (.optionsOfRecipe .depthwiseConv2d options))

def backpropData (recipe : Recipe) (inputPosition weightsPosition : Nat)
    (options : TransposeConvOptions) (height width : Int32) : Typing OutputType := do
  let data ← input scope graph inputs recipe inputPosition
  let weights ← input scope graph inputs recipe weightsPosition
  let weights ← orderedFilter scope inputs weightsPosition weights
  let strides ← Fusion.strides recipe options.strideHeight options.strideWidth
  op (.convolutionBackpropData ⟨strides, ⟨1, 1⟩, Emission.transposedPadMode options.padding⟩)
    [data, .ofType weights, .ofInt32s [height, width]]

def transposeConv : BuiltinOptions → Typing OutputType
  | .transposeConv options => do
    let dims ← Emission.outputDims scope inputs
    match dims with
    | _ :: height :: width :: _ => do
      let result ← backpropData scope graph inputs .transposeConv 2 1 options height width
      let result ← addOptionalBias scope graph inputs .transposeConv 3 result
      activate result options.activation
    | _ => throw (.obstructed (.outputShapeNotNhwc dims))
  | options => throw (.invalidArgument (.optionsOfRecipe .transposeConv options))

def transposeConvBias : BuiltinOptions → Typing OutputType
  | .transposeConv options => do
    let dims ← scope.dims .transposeConvBias inputs 0
    match dims with
    | _ :: height :: width :: _ => do
      let result ←
        backpropData scope graph inputs .transposeConvBias 0 1 options (height * 2) (width * 2)
      let bias ← input scope graph inputs .transposeConvBias 2
      let biasDims ← scope.dims .transposeConvBias inputs 2
      addBias result bias biasDims
    | _ => throw (.obstructed (.inputNotNhwc .transposeConvBias dims))
  | options => throw (.invalidArgument (.optionsOfRecipe .transposeConvBias options))

end Operands

/-! ## Runs that succeed -/

section Runs

variable {α β : Type} {uses all : List FilterUse}

theorem bind_run_eq_ok {first : Typing α} {next : α → Typing β} {result : β × List FilterUse} :
    (first >>= next).run uses = .ok result ↔
      ∃ value between, first.run uses = .ok (value, between) ∧
        (next value).run between = .ok result := by
  rw [StateT.run_bind, bind_eq_ok]
  simp only [Prod.exists]

theorem lift_run_eq_ok {lookup : Except Failure α} {value : α} :
    (liftM lookup : Typing α).run uses = .ok (value, all) ↔ lookup = .ok value ∧ all = uses := by
  cases lookup with
  | error failure => exact ⟨nofun, nofun⟩
  | ok found =>
    change Except.ok (found, uses) = Except.ok (value, all) ↔ _
    simp [eq_comm]

theorem pure_run_eq_ok {value told : α} :
    (pure told : Typing α).run uses = .ok (value, all) ↔ value = told ∧ all = uses := by
  change Except.ok (told, uses) = Except.ok (value, all) ↔ _
  simp [eq_comm]

theorem op_run_eq_ok {operation : Op} {nodes : List Node} {type : OutputType} :
    (op operation nodes).run uses = .ok (type, all) ↔
      operation.infer nodes = .ok type ∧ all = uses ++ operation.filterUses nodes := by
  rw [op]
  cases inferred : operation.infer nodes with
  | error error => exact ⟨nofun, nofun⟩
  | ok result =>
    change Except.ok (result, uses ++ operation.filterUses nodes) = Except.ok (type, all) ↔ _
    simp [eq_comm]

theorem filterUses_of_plain {operation : Op} (plain : operation.isConvolution = false)
    (nodes : List Node) : operation.filterUses nodes = [] := by
  rw [Op.filterUses, plain]
  rfl

theorem plain_op_run_eq_ok {operation : Op} (plain : operation.isConvolution = false)
    {nodes : List Node} {type : OutputType} :
    (op operation nodes).run uses = .ok (type, all) ↔
      operation.infer nodes = .ok type ∧ all = uses := by
  rw [op_run_eq_ok, filterUses_of_plain plain, List.append_nil]

theorem lift_bind_run_eq_ok {lookup : Except Failure α} {next : α → Typing β}
    {result : β × List FilterUse} :
    (liftM lookup >>= next).run uses = .ok result ↔
      ∃ value, lookup = .ok value ∧ (next value).run uses = .ok result := by
  rw [bind_run_eq_ok]
  constructor
  · rintro ⟨value, between, looked, rest⟩
    obtain ⟨found, rfl⟩ := lift_run_eq_ok.1 looked
    exact ⟨value, found, rest⟩
  · rintro ⟨value, found, rest⟩
    exact ⟨value, uses, lift_run_eq_ok.2 ⟨found, rfl⟩, rest⟩

theorem op_bind_run_eq_ok {operation : Op} {nodes : List Node} {next : OutputType → Typing β}
    {result : β × List FilterUse} :
    (op operation nodes >>= next).run uses = .ok result ↔
      ∃ type, operation.infer nodes = .ok type ∧
        (next type).run (uses ++ operation.filterUses nodes) = .ok result := by
  rw [bind_run_eq_ok]
  constructor
  · rintro ⟨type, between, applied, rest⟩
    obtain ⟨inferred, rfl⟩ := op_run_eq_ok.1 applied
    exact ⟨type, inferred, rest⟩
  · rintro ⟨type, inferred, rest⟩
    exact ⟨type, _, op_run_eq_ok.2 ⟨inferred, rfl⟩, rest⟩

end Runs

theorem infer_activation {activation : Activation} {operation : Op}
    (known : Fusion.activationOp activation = .ok (some operation)) (type : OutputType) :
    operation.infer [.ofType type] = .ok type ∧ operation.isConvolution = false := by
  have narrow : ¬(1 : Float) < -1 := by decide
  have wide : ¬(6 : Float) < 0 := by decide
  cases activation <;> cases known
  all_goals simp [Op.infer, Inference.elementwise, Inference.clamp, Inference.oneInput, Op.isConvolution,
    narrow, wide]

theorem activate_eq_pure {activation : Activation} (known : activation ≠ .signBit)
    (type : OutputType) (uses : List FilterUse) :
    (activate type activation).run uses = .ok (type, uses) := by
  obtain ⟨operation?, found⟩ : ∃ operation?, Fusion.activationOp activation = .ok operation? := by
    cases activation <;> first | exact ⟨_, rfl⟩ | exact absurd rfl known
  rw [activate, found]
  cases operation? with
  | none => rfl
  | some operation =>
    obtain ⟨inferred, plain⟩ := infer_activation found type
    exact (plain_op_run_eq_ok plain).2 ⟨inferred, rfl⟩

theorem of_activate {activation : Activation} {type result : OutputType}
    {uses all : List FilterUse} (success : (activate type activation).run uses = .ok (result, all)) :
    result = type ∧ all = uses := by
  by_cases known : activation = .signBit
  · subst known
    cases success
  · rw [activate_eq_pure known] at success
    cases success
    exact ⟨rfl, rfl⟩

end Typing

/-- What `Recipe.emit` comes to, told on the nodes of a graph. -/
def Recipe.typing (recipe : Recipe) (scope : Scope) (graph : Graph) (inputs : List OperandIndex)
    (options : BuiltinOptions) : Typing OutputType :=
  match recipe with
  | .add => Typing.add scope graph inputs options
  | .mul => Typing.mul scope graph inputs options
  | .averagePool2d => Typing.averagePool2d scope graph inputs options
  | .maxPool2d => Typing.maxPool2d scope graph inputs options
  | .concatenation => Typing.concatenation scope graph inputs options
  | .conv2d => Typing.conv2d scope graph inputs options
  | .depthwiseConv2d => Typing.depthwiseConv2d scope graph inputs options
  | .transposeConv => Typing.transposeConv scope graph inputs options
  | .transposeConvBias => Typing.transposeConvBias scope graph inputs options
  | .dequantize => Typing.unary scope graph inputs .dequantize (.convert .f32)
  | .hardSwish => Typing.unary scope graph inputs .hardSwish .hSwish
  | .logistic => Typing.unary scope graph inputs .logistic .sigmoid
  | .relu => Typing.unary scope graph inputs .relu .relu
  | .relu6 => Typing.unary scope graph inputs .relu6 (.clamp 0 6)
  | .tanh => Typing.unary scope graph inputs .tanh .tanh
  | .reshape => Typing.reshape scope graph inputs options
  | .softmax => Typing.unary scope graph inputs .softmax (.softmax 1)
  | .mean => Typing.mean scope graph inputs options
  | .resizeBilinear => Typing.resizeBilinear scope graph inputs options

end PartitionLowering
