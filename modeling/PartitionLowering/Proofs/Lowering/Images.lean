import PartitionLowering.Proofs.Engine.Broadcasting
import PartitionLowering.Proofs.Engine.Joins
import PartitionLowering.Proofs.Lowering.Weights

/-!
What the lowerings come to on images that stand in the engine's layout: the engine's layout of the shape
that the host's rule gives.  Elementwise operators are told by equations (`unary_eq`, `binary_eq`,
`infer_arithmetic`), which hold in both directions; the others are told by what their success implies.
-/

set_option autoImplicit false

namespace PartitionLowering

/-! ## Elementwise operators -/

section Elementwise

variable {scope : Scope} {graph : Graph} {inputs : List OperandIndex} {recipe : Recipe} {op : Op}

def Recipe.unaryOp? : Recipe → Option Op
  | .relu => some .relu
  | .relu6 => some (.clamp 0 6)
  | .tanh => some .tanh
  | .logistic => some .sigmoid
  | .hardSwish => some .hSwish
  | .softmax => some (.softmax 1)
  | _ => none

theorem Recipe.typing_unary (unary : recipe.unaryOp? = some op) (options : BuiltinOptions) :
    recipe.typing scope graph inputs options = Typing.unary scope graph inputs recipe op := by
  cases recipe <;> cases unary <;> rfl

theorem Recipe.infer_unary (unary : recipe.unaryOp? = some op) {type : OutputType}
    (image : type.1.length = 4) :
    op.infer [.ofType type] = .ok type ∧ op.isConvolution = false := by
  have wide : ¬(6 : Float) < 0 := by decide
  have axis : ¬type.1.length ≤ 1 := by omega
  cases recipe <;> cases unary
  all_goals simp [Op.infer, Inference.elementwise, Inference.clamp, Inference.softmax, Inference.oneInput,
    Op.isConvolution, Node.rank, wide, axis]

theorem unary_eq (unary : recipe.unaryOp? = some op) {type : OutputType} (rank : type.1.length = 4)
    (image : scope.Data graph inputs 0 type) :
    Typing.unary scope graph inputs recipe op = pure type := by
  obtain ⟨node, reads, rfl⟩ := image
  obtain ⟨inferred, plain⟩ := Recipe.infer_unary unary rank
  rw [Typing.unary, reads.input, lift_ok_bind, op_data, op_eq_pure inferred plain]

def Recipe.binaryOp? : Recipe → Option Op
  | .add => some .add
  | .mul => some .multiply
  | _ => none

theorem binary_eq (binary : recipe.binaryOp? = some op) {lhs rhs : OutputType}
    (first : scope.Data graph inputs 0 lhs) (second : scope.Data graph inputs 1 rhs)
    (activation : Activation) :
    Typing.binary scope graph inputs recipe op activation =
      Typing.op op [.ofType lhs, .ofType rhs] >>= fun result => Typing.activate result activation := by
  obtain ⟨node, reads, rfl⟩ := first
  obtain ⟨node', reads', rfl⟩ := second
  have plain : op.integerPositions = [] := by
    cases recipe <;> cases binary <;> rfl
  have alike : List.Forall₂ Node.Alike [node, node']
      [.ofType node.outputType, .ofType node'.outputType] := .cons rfl (.cons rfl .nil)
  have same : Typing.op op [node, node'] =
      Typing.op op [.ofType node.outputType, .ofType node'.outputType] := by
    apply op_congr alike
    intro position asked
    simp [plain] at asked
  rw [Typing.binary, reads.input, reads'.input, lift_ok_bind, lift_ok_bind, same]

theorem Recipe.infer_binary (binary : recipe.binaryOp? = some op) (nodes : List Node) :
    op.infer nodes = Inference.arithmetic op.name nodes := by
  cases recipe <;> cases binary <;> rfl

/-- Arithmetic on images has a type where the host's shapes broadcast, and then it is the broadcast. -/
theorem infer_arithmetic (binary : recipe.binaryOp? = some op) {lhs rhs : Shape}
    (left : lhs.length ≤ 4) (right : rhs.length ≤ 4) {a b : ElementType} {type : OutputType} :
    op.infer [.ofType (Layout.engineShape lhs, a), .ofType (Layout.engineShape rhs, b)] = .ok type ↔
      a = b ∧ ∃ shape, Host.broadcast? lhs rhs = some shape ∧ type = (Layout.engineShape shape, a) := by
  rw [Recipe.infer_binary binary, Inference.arithmetic, Inference.twoInputs, ok_bind]
  by_cases same : a = b
  · simp only [Node.elementType_ofType, Node.shape_ofType, same, ne_eq, not_true_eq_false, if_false,
      Shape.broadcast, Layout.broadcast?_engineShape left right]
    cases Host.broadcast? lhs rhs <;> simp [eq_comm]
  · simp [same]

end Elementwise

/-! ## Windows -/

/-- What an operation on images comes to: the engine's layout of an image that the host infers. -/
def Imaged (hosted : Option Shape) (told : OutputType) : Prop :=
  ∃ batch height width channels elementType, hosted = some [batch, height, width, channels] ∧
    told = ([batch, channels, height, width], elementType)

def Padding.mode (padding : Padding) : PadMode :=
  if padding = .same then .sameUpper else .valid

theorem padMode_eq_ok {padding : Padding} {padMode : PadMode} :
    Fusion.padMode padding = .ok padMode ↔
      (padding = .same ∨ padding = .valid) ∧ padMode = padding.mode := by
  cases padding <;> simp [Fusion.padMode, Padding.mode, eq_comm]

theorem reach_eq (kernel dilation : Nat) :
    Window.reach kernel dilation = (kernel - 1) * dilation + 1 := by
  have shrunk : max kernel 1 - 1 = kernel - 1 := by omega
  rw [Window.reach, shrunk, Nat.mul_comm]

/-- The engine counts window positions as the host does. -/
theorem windowExtent?_of_forward {op : String} {input kernel stride dilation extent : Nat}
    {padding : Padding}
    (success : Window.forward op input kernel stride dilation padding.mode = .ok extent) :
    Host.windowExtent? padding input kernel stride dilation = some extent := by
  unfold Window.forward at success
  by_cases zero : stride = 0 ∨ dilation = 0
  · simp [zero] at success
  · rw [if_neg zero] at success
    have positive : 0 < stride := by omega
    by_cases same : padding = .same
    · rw [Padding.mode, if_pos same] at success
      rw [Host.windowExtent?, if_pos same]
      simpa using success
    · rw [Padding.mode, if_neg same, reach_eq] at success
      rw [Host.windowExtent?, if_neg same]
      by_cases short : input < (kernel - 1) * dilation + 1
      · simp [short] at success
      · have split : input + stride - ((kernel - 1) * dilation + 1) =
            input - ((kernel - 1) * dilation + 1) + stride := by omega
        simp only [short, if_false, Except.ok.injEq] at success ⊢
        rw [split, Nat.add_div_right _ positive, success]

theorem positive_eq_ok {recipe : Recipe} {parameter : String} {value : Int32} {extent : Nat} :
    Fusion.positive recipe parameter value = .ok extent ↔ 0 < value ∧ extent = Host.count value := by
  rw [Fusion.positive, guard_eq_ok, Int32.not_le, Except.ok.injEq, eq_comm (b := extent)]
  rfl

theorem extents_eq_ok {recipe : Recipe} {first second : String} {height width : Int32}
    {spatial : Spatial} :
    (do
      let height ← Fusion.positive recipe first height
      let width ← Fusion.positive recipe second width
      return (⟨height, width⟩ : Spatial)) = .ok spatial ↔
      (0 < height ∧ 0 < width) ∧ spatial = ⟨Host.count height, Host.count width⟩ := by
  simp only [bind_eq_ok, positive_eq_ok, pure_eq_ok, Except.ok.injEq]
  constructor
  · rintro ⟨_, ⟨high, rfl⟩, _, ⟨wide, rfl⟩, rfl⟩
    exact ⟨⟨high, wide⟩, rfl⟩
  · rintro ⟨⟨high, wide⟩, rfl⟩
    exact ⟨_, ⟨high, rfl⟩, _, ⟨wide, rfl⟩, rfl⟩

/-! ## Pools -/

section Pools

variable {scope : Scope} {graph : Graph} {inputs : List OperandIndex} {options : Pool2dOptions}
  {batch height width channels : Nat} {elementType : ElementType} {told : OutputType}
  {uses all : List FilterUse}

theorem of_pool {op : String} {padMode : PadMode} {recipe : Recipe} {attributes : PoolAttributes}
    (mode : padMode = options.padding.mode)
    (known : Emission.poolAttributes recipe options padMode = .ok attributes) {type : OutputType}
    (inferred : Inference.pool op attributes
      [.ofType ([batch, channels, height, width], elementType)] = .ok type) :
    Imaged (Host.pool? options [batch, height, width, channels]) type := by
  obtain ⟨strides, strided, rest⟩ := bind_eq_ok.1 known
  obtain ⟨kernel, shaped, same⟩ := bind_eq_ok.1 rest
  rw [(extents_eq_ok.1 strided).2, (extents_eq_ok.1 shaped).2, mode] at same
  cases same
  simp only [Inference.pool, Inference.oneInput, Node.shape_ofType, Inference.rankFour, ok_bind,
    Window.pool, bind_eq_ok, pure_eq_ok] at inferred
  obtain ⟨spatial, ⟨rows, first, columns, second, extents⟩, same⟩ := inferred
  cases extents
  cases same
  refine ⟨batch, rows, columns, channels, elementType, ?_, rfl⟩
  simp [Host.pool?, windowExtent?_of_forward first, windowExtent?_of_forward second]

theorem of_averagePool2d
    (image : scope.Data graph inputs 0 ([batch, channels, height, width], elementType))
    (success : (Typing.averagePool2d scope graph inputs (.pool2d options)).run uses =
      .ok (told, all)) :
    Imaged (Host.pool? options [batch, height, width, channels]) told := by
  obtain ⟨node, reads, type⟩ := image
  rw [Typing.averagePool2d, reads.input, lift_ok_bind] at success
  obtain ⟨padMode, padded, rest⟩ := Typing.lift_bind_run_eq_ok.1 success
  obtain ⟨attributes, known, rest⟩ := Typing.lift_bind_run_eq_ok.1 rest
  rw [op_data, type] at rest
  obtain ⟨produced, inferred, rest⟩ := Typing.op_bind_run_eq_ok.1 rest
  obtain ⟨rfl, _⟩ := Typing.of_activate rest
  exact of_pool (padMode_eq_ok.1 padded).2 known inferred

theorem of_maxPool2d
    (image : scope.Data graph inputs 0 ([batch, channels, height, width], elementType))
    (success : (Typing.maxPool2d scope graph inputs (.pool2d options)).run uses =
      .ok (told, all)) :
    Imaged (Host.pool? options [batch, height, width, channels]) told := by
  obtain ⟨node, reads, type⟩ := image
  rw [Typing.maxPool2d, reads.input, lift_ok_bind] at success
  obtain ⟨attributes, known, rest⟩ := Typing.lift_bind_run_eq_ok.1 success
  rw [op_data, type] at rest
  obtain ⟨produced, inferred, rest⟩ := Typing.op_bind_run_eq_ok.1 rest
  obtain ⟨rfl, _⟩ := Typing.of_activate rest
  exact of_pool rfl known inferred

end Pools

/-! ## Joined and resized images -/

section Rearranged

variable {scope : Scope} {graph : Graph} {inputs : List OperandIndex}
  {batch height width channels : Nat} {elementType : ElementType} {told : OutputType}
  {uses all : List FilterUse}

theorem of_joined {batch' height' width' channels' : Nat} {elementType' : ElementType}
    (inferred : (Op.concat 1).infer [.ofType ([batch, channels, height, width], elementType),
      .ofType ([batch', channels', height', width'], elementType')] = .ok told) :
    Imaged (Host.joinChannels? [[batch, height, width, channels], [batch', height', width', channels']])
      told := by
  rw [Op.infer, Inference.concat_eq_ok, List.map_cons, Inference.joined_cons_iff] at inferred
  obtain ⟨_, alike, rfl⟩ := inferred
  obtain ⟨shapes, _⟩ := Prod.ext_iff.1 (alike _ List.mem_cons_self)
  simp only [Inference.frame, Shape.withAlong, Shape.countedAxis, Node.outputType_ofType] at shapes
  obtain ⟨rfl, rfl, rfl⟩ : batch' = batch ∧ height' = height ∧ width' = width := by simpa using shapes
  refine ⟨batch', height', width', channels + channels', elementType, ?_, rfl⟩
  simp [Host.joinChannels?]

theorem of_concatenation {lhs rhs : OperandIndex} (two : inputs = [lhs, rhs])
    {options : ConcatenationOptions} {batch' height' width' channels' : Nat}
    {elementType' : ElementType}
    (first : scope.Data graph inputs 0 ([batch, channels, height, width], elementType))
    (second : scope.Data graph inputs 1 ([batch', channels', height', width'], elementType'))
    (success : (Typing.concatenation scope graph inputs (.concatenation options)).run uses =
      .ok (told, all)) :
    Imaged (Host.joinChannels? [[batch, height, width, channels], [batch', height', width', channels']])
      told := by
  obtain ⟨node, reads, type⟩ := first
  obtain ⟨node', reads', type'⟩ := second
  have count : inputs.length = 2 := by rw [two]; rfl
  have parts : Typing.allInputs scope graph inputs .concatenation = .ok [node, node'] := by
    rw [Typing.allInputs, count]
    simp [List.range_succ, reads.input, reads'.input]
  have alike : List.Forall₂ Node.Alike [node, node']
      [.ofType ([batch, channels, height, width], elementType),
        .ofType ([batch', channels', height', width'], elementType')] :=
    .cons type (.cons type' .nil)
  have same : Typing.op (.concat 1) [node, node'] =
      Typing.op (.concat 1) [.ofType ([batch, channels, height, width], elementType),
        .ofType ([batch', channels', height', width'], elementType')] := by
    apply op_congr alike
    intro position asked
    simp [Op.integerPositions] at asked
  have enough : ¬inputs.length < 2 := by omega
  rw [Typing.concatenation, if_neg enough, parts, lift_ok_bind, same] at success
  obtain ⟨produced, inferred, rest⟩ := Typing.op_bind_run_eq_ok.1 success
  obtain ⟨rfl, _⟩ := Typing.of_activate rest
  exact of_joined inferred

theorem of_interpolated {mode : CoordinateMode} {sizes : Node}
    (inferred : (Op.interpolate mode).infer [.ofType ([batch, channels, height, width], elementType),
      sizes, .ofInt32s [2, 3]] = .ok told) :
    ∃ rows columns : Int, sizes.integers? = some [rows, columns] ∧ 0 < rows ∧ 0 < columns ∧
      told = ([batch, channels, rows.toNat, columns.toNat], elementType) := by
  have axes : (Node.ofInt32s [2, 3]).integers? = some [2, 3] := by
    rw [Node.integers?_int32 _ _ rfl rfl]
    decide
  have third : Shape.resolveAxis 2 4 = .ok 2 := rfl
  have fourth : Shape.resolveAxis 3 4 = .ok 3 := rfl
  simp only [Op.infer, Inference.interpolate, Inference.threeInputs, ok_bind, Inference.integersAt, axes,
    Node.shape_ofType, Node.elementType_ofType] at inferred
  cases held : sizes.integers? with
  | none => simp [held] at inferred
  | some values =>
    simp only [held, ok_bind] at inferred
    rcases values with _ | ⟨rows, _ | ⟨columns, _ | ⟨_, _⟩⟩⟩
    · simp at inferred
    · simp at inferred
    · by_cases low : rows ≤ 0
      · simp [Inference.resizeAxes, low] at inferred
      · by_cases narrow : columns ≤ 0
        · simp [Inference.resizeAxes, low, narrow, third] at inferred
        · simp [Inference.resizeAxes, low, narrow, third, fourth] at inferred
          exact ⟨rows, columns, rfl, by omega, by omega, inferred.symm⟩
    · simp at inferred

theorem of_resizeBilinear {options : ResizeBilinearOptions}
    (image : scope.Data graph inputs 0 ([batch, channels, height, width], elementType)) {sizes : Node}
    (held : scope.Reads graph inputs 1 sizes)
    (success : (Typing.resizeBilinear scope graph inputs (.resizeBilinear options)).run uses =
      .ok (told, all)) :
    ∃ rows columns : Int, sizes.integers? = some [rows, columns] ∧ 0 < rows ∧ 0 < columns ∧
      told = ([batch, channels, rows.toNat, columns.toNat], elementType) := by
  obtain ⟨node, reads, type⟩ := image
  rw [Typing.resizeBilinear, reads.input, held.input, lift_ok_bind, lift_ok_bind, op_data, type]
    at success
  exact of_interpolated ((Typing.plain_op_run_eq_ok rfl).1 success).1

end Rearranged

/-- Positive integers that the engine reads from a payload are those that the host reads. -/
theorem host_integers {tensor : Tensor} {data : List UInt8} {elementType : ElementType} {node : Node}
    (held : tensor.data = some data) (typed : Layout.elementType tensor.tensorType = .ok elementType)
    (op : node.op = .constant data) (element : node.elementType = elementType) {values : List Int}
    (known : node.integers? = some values) (positive : ∀ value ∈ values, 0 < value) :
    Host.integers? tensor = some values := by
  rw [Node.integers?, op, element] at known
  rw [Host.integers?, held]
  cases type : tensor.tensorType <;> rw [type] at typed <;> cases typed <;> cases known
  all_goals try rfl
  -- only unsigned integers of 64 bits are read with a sign by the engine alone
  refine congrArg some (List.map_congr_left fun bytes member => ?_)
  exact (LittleEndian.signed_of_pos (positive _ (List.mem_map_of_mem member))).symm

end PartitionLowering
