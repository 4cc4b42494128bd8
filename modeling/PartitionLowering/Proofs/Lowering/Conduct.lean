import PartitionLowering.Proofs.Engine.Arena
import PartitionLowering.Proofs.Engine.Regularity
import PartitionLowering.Proofs.Lowering.EmissionAlike

/-!
How the steps of a lowering conduct themselves.  A step `Conducts` itself when what it adds to a draft
develops the graph, whether it then succeeds or fails, and when its value and its failure are as told.
There is one rule for each way in which steps are put together.  A scope `Answers` a recipe when all that
the recipe looks up fails only as told.
-/

set_option autoImplicit false

namespace PartitionLowering

/-! ## Failures of a node -/

/-- Failures that a node with fitting options may still meet. -/
def Failure.Blocks : Failure → Prop
  | .missingOperand _ | .obstructed _ => True
  | _ => False

namespace Graph

def HasId (graph : Graph) (id : NodeId) : Prop :=
  id < graph.size

def HasNode (graph : Graph) (node : Node) : Prop :=
  graph.HasId node.id

theorem HasId.mono {before after : Graph} {id : NodeId} (has : before.HasId id)
    (develops : before.Develops after) : after.HasId id :=
  Nat.lt_of_lt_of_le has develops.extends.size_le

theorem hasNode_push (graph : Graph) (op : Op) (inputs : List NodeId) (type : OutputType) :
    (graph.push op inputs type).2.HasNode (graph.push op inputs type).1 :=
  lt_size_of_node? (node?_push_self graph op inputs type)

end Graph

/-! ## Look-ups -/

section LookUps

variable {α β : Type} {Fails : Failure → Prop}

def FailsWithin (Fails : Failure → Prop) (lookup : Except Failure α) : Prop :=
  ∀ failure, lookup = .error failure → Fails failure

theorem failsWithin_ok (value : α) : FailsWithin Fails (.ok value) := by
  intro failure failed
  cases failed

theorem failsWithin_error {failure : Failure} (fails : Fails failure) :
    FailsWithin Fails (.error failure : Except Failure α) := by
  intro other failed
  cases failed
  exact fails

theorem FailsWithin.bind {lookup : Except Failure α} {next : α → Except Failure β}
    (first : FailsWithin Fails lookup) (rest : ∀ value, FailsWithin Fails (next value)) :
    FailsWithin Fails (lookup >>= next) := by
  cases outcome : lookup with
  | error failure => exact failsWithin_error (first failure outcome)
  | ok value => exact rest value

theorem failsWithin_guard {condition : Prop} [Decidable condition] {failure : Failure}
    {next : Except Failure α} (fails : Fails failure) (rest : FailsWithin Fails next) :
    FailsWithin Fails (if condition then .error failure else next) := by
  by_cases holds : condition
  · rw [if_pos holds]
    exact failsWithin_error fails
  · rw [if_neg holds]
    exact rest

theorem failsWithin_mapM {lookup : Nat → Except Failure α}
    (each : ∀ position, FailsWithin Fails (lookup position)) (positions : List Nat) :
    FailsWithin Fails (positions.mapM lookup) := by
  induction positions with
  | nil => exact failsWithin_ok []
  | cons position rest ih =>
    rw [List.mapM_cons]
    apply (each position).bind
    intro value
    apply ih.bind
    intro values
    exact failsWithin_ok _

theorem failsWithin_tensor {index : OperandIndex} (missing : Fails (.missingOperand index))
    (tensors : TensorContext) : FailsWithin Fails (Scope.tensor tensors index) := by
  rw [Scope.tensor]
  cases tensors.get? index with
  | none => exact failsWithin_error missing
  | some tensor => exact failsWithin_ok tensor

theorem Obstructs.within {lookup : Except Failure α} (obstructs : Obstructs lookup)
    (allows : ∀ obstacle, Fails (.obstructed obstacle)) : FailsWithin Fails lookup := by
  intro failure failed
  obtain ⟨obstacle, rfl⟩ := obstructs failure failed
  exact allows obstacle

theorem failsWithin_node {index : OperandIndex} (missing : Fails (.missingOperand index))
    (registry : Registry) : FailsWithin Fails (registry.node index) := by
  rw [Registry.node]
  cases registry.node? index with
  | none => exact failsWithin_error missing
  | some id => exact failsWithin_ok id

end LookUps

/-! ## What a recipe looks up -/

/-- The positions of the operands that a recipe looks up.  An operator that works on one operand leaves
the others alone. -/
def Recipe.Reads : Recipe → Nat → Prop
  | .averagePool2d, position | .maxPool2d, position | .dequantize, position | .hardSwish, position
  | .logistic, position | .relu, position | .relu6, position | .tanh, position
  | .softmax, position => position = 0
  | .resizeBilinear, position => position < 2
  | _, _ => True

/-- The positions of the operands whose nodes a recipe looks up; the output dims of a transposed
convolution have none. -/
def Recipe.ReadsNode : Recipe → Nat → Prop
  | .transposeConv, position => 0 < position
  | recipe, position => recipe.Reads position

theorem Recipe.ReadsNode.reads {recipe : Recipe} {position : Nat} (reads : recipe.ReadsNode position) :
    recipe.Reads position := by
  cases recipe <;> first
    | exact reads
    | trivial

structure Scope.Answers (Fails : Failure → Prop) (scope : Scope) (recipe : Recipe)
    (inputs : List OperandIndex) : Prop where
  allows : ∀ obstacle, Fails (.obstructed obstacle)
  input : ∀ position, recipe.ReadsNode position →
    FailsWithin Fails (scope.input recipe inputs position)
  optionalInput : ∀ position, recipe.ReadsNode position →
    FailsWithin Fails (scope.optionalInput inputs position)
  tensor : ∀ position index, recipe.Reads position → inputs[position]? = some index →
    FailsWithin Fails (Scope.tensor scope.tensors index)

section Answers

variable {Fails : Failure → Prop} {scope : Scope} {recipe : Recipe} {inputs : List OperandIndex}

/-- Any scope answers where an operand may be missing. -/
theorem Scope.answers_of_missing (missing : ∀ index, Fails (.missingOperand index))
    (allows : ∀ obstacle, Fails (.obstructed obstacle)) : scope.Answers Fails recipe inputs where
  allows := allows
  input position _ := by
    rw [Scope.input, Scope.operand]
    cases inputs[position]? with
    | none => exact failsWithin_error (allows _)
    | some index => exact failsWithin_guard (missing index) (failsWithin_node (missing index) _)
  optionalInput position _ := by
    rw [Scope.optionalInput]
    cases inputs[position]? with
    | none => exact failsWithin_ok none
    | some index =>
      by_cases valid : 0 ≤ index
      · simp only [valid, if_true]
        exact (failsWithin_node (missing index) _).bind fun id => failsWithin_ok (some id)
      · simp only [valid, if_false]
        exact failsWithin_ok none
  tensor _ index _ _ := failsWithin_tensor (missing index) scope.tensors

variable (answers : scope.Answers Fails recipe inputs)

include answers

theorem Scope.Answers.dims {position : Nat} (reads : recipe.Reads position) :
    FailsWithin Fails (scope.dims recipe inputs position) := by
  rw [Scope.dims, Scope.operand]
  cases here : inputs[position]? with
  | none => exact failsWithin_error (answers.allows _)
  | some index =>
    exact (answers.tensor position index reads here).bind fun tensor => failsWithin_ok tensor.dims

omit answers

theorem failsWithin_meanAxes (answers : scope.Answers Fails .mean inputs) :
    FailsWithin Fails (Emission.meanAxes scope inputs) := by
  rw [Emission.meanAxes]
  cases here : inputs[1]? with
  | none => exact failsWithin_error (answers.allows _)
  | some index =>
    apply (answers.tensor 1 index trivial here).bind
    intro tensor
    rcases tensor.int32Values? with _ | _ | ⟨axis, rest⟩
    · exact failsWithin_error (answers.allows _)
    · exact failsWithin_error (answers.allows _)
    · exact failsWithin_ok _

theorem failsWithin_outputDims (answers : scope.Answers Fails .transposeConv inputs) :
    FailsWithin Fails (Emission.outputDims scope inputs) := by
  rw [Emission.outputDims, List.head?_eq_getElem?]
  cases here : inputs[0]? with
  | none => exact failsWithin_error (answers.allows _)
  | some index =>
    apply (answers.tensor 0 index trivial here).bind
    intro tensor
    cases tensor.int32Values? with
    | none => exact failsWithin_error (answers.allows _)
    | some dims => exact failsWithin_ok dims

end Answers

/-! ## Positive windows -/

section Windows

variable {recipe : Recipe} {spatial : Spatial}

theorem pos_of_positive {parameter : String} {value : Int32} {extent : Nat}
    (known : Fusion.positive recipe parameter value = .ok extent) : 0 < extent := by
  rw [Fusion.positive, guard_eq_ok] at known
  obtain ⟨high, same⟩ := known
  cases same
  have positive : 0 < value.toInt := Int32.lt_iff_toInt_lt.1 (Int32.not_le.1 high)
  omega

theorem pos_of_extents {first second : String} {height width : Int32}
    (known : (do
      let height ← Fusion.positive recipe first height
      let width ← Fusion.positive recipe second width
      return (⟨height, width⟩ : Spatial)) = .ok spatial) : ∀ extent ∈ spatial.toList, 0 < extent := by
  obtain ⟨rows, high, rest⟩ := bind_eq_ok.1 known
  obtain ⟨columns, wide, same⟩ := bind_eq_ok.1 rest
  cases same
  simpa [Spatial.toList] using And.intro (pos_of_positive high) (pos_of_positive wide)

theorem pos_of_poolAttributes {options : Pool2dOptions} {padMode : PadMode}
    {attributes : PoolAttributes}
    (known : Emission.poolAttributes recipe options padMode = .ok attributes) :
    ∀ extent ∈ attributes.strides.toList ++ attributes.kernel.toList, 0 < extent := by
  obtain ⟨strides, strided, rest⟩ := bind_eq_ok.1 known
  obtain ⟨kernel, shaped, same⟩ := bind_eq_ok.1 rest
  cases same
  exact List.forall_mem_append.2 ⟨pos_of_extents strided, pos_of_extents shaped⟩

end Windows

/-! ## Steps -/

section Steps

variable {α β : Type} {Fails : Failure → Prop} {Shows : Graph → α → Prop} {Shows' : Graph → β → Prop}
  {draft : Draft}

/-- A step develops the graph of a draft, whether it succeeds with a value of which `Shows` holds or
fails with a failure of which `Fails` holds. -/
def Conducts (Fails : Failure → Prop) (Shows : Graph → α → Prop) (step : Emit α) (draft : Draft) :
    Prop :=
  match step draft with
  | .ok value after => draft.graph.Develops after.graph ∧ Shows after.graph value
  | .error failure after => draft.graph.Develops after.graph ∧ Fails failure

theorem conducts_pure {value : α} (shows' : Shows draft.graph value) :
    Conducts Fails Shows (pure value) draft :=
  ⟨.refl, shows'⟩

theorem conducts_throw {failure : Failure} (fails : Fails failure) :
    Conducts Fails Shows (throw failure : Emit α) draft :=
  ⟨.refl, fails⟩

theorem conducts_iff_takes {step : Emit α} :
    Conducts Fails Shows step draft ↔
      Takes (fun draft after => draft.graph.Develops after.graph) Fails
        (fun after value => Shows after.graph value) step draft := by
  rw [Conducts, Takes]
  cases step draft <;> rfl

theorem Conducts.bind {step : Emit α} {next : α → Emit β} (first : Conducts Fails Shows step draft)
    (rest : ∀ value after, draft.graph.Develops after.graph → Shows after.graph value →
      Conducts Fails Shows' (next value) after) : Conducts Fails Shows' (step >>= next) draft :=
  conducts_iff_takes.2 <| (conducts_iff_takes.1 first).bind .trans fun value after develops shown =>
    conducts_iff_takes.1 (rest value after develops shown)

theorem Conducts.map {step : Emit α} {write : α → β} (first : Conducts Fails Shows step draft)
    (tells : ∀ graph value, Shows graph value → Shows' graph (write value)) :
    Conducts Fails Shows' (do return write (← step)) draft :=
  first.bind fun value after _ shows' => conducts_pure (tells after.graph value shows')

theorem conducts_lift {lookup : Except Failure α} (fails : FailsWithin Fails lookup) :
    Conducts Fails (fun _ value => lookup = .ok value) (liftM lookup) draft :=
  conducts_iff_takes.2 (takes_lift .refl fails)

theorem conducts_get {next : Draft → Emit α} (rest : Conducts Fails Shows (next draft) draft) :
    Conducts Fails Shows (get >>= next) draft :=
  conducts_iff_takes.2 (takes_get (conducts_iff_takes.1 rest))

theorem conducts_note (event : Event) :
    Conducts Fails (fun _ _ => True) (Emit.note event) draft :=
  ⟨.refl, trivial⟩

theorem conducts_keep {op : Op} {inputs : List NodeId} {type : OutputType}
    (adds : draft.graph.Adds (draft.graph.push op inputs type).2) :
    Conducts Fails Graph.HasNode (Emit.keep (draft.graph.push op inputs type)) draft :=
  ⟨.single adds, Graph.hasNode_push draft.graph op inputs type⟩

theorem positive_length {value : α} {values : List α} : Shape.Positive [(value :: values).length] :=
  .cons (Nat.succ_pos _) Shape.positive_nil

theorem conducts_int32Constant {values : List Int32} (given : values ≠ []) :
    Conducts Fails Graph.HasNode (Emit.int32Constant values) draft := by
  obtain ⟨value, rest, rfl⟩ := List.exists_cons_of_ne_nil given
  exact conducts_get (conducts_keep (.source rfl positive_length))

theorem conducts_int64Constant {values : List Int64} (given : values ≠ []) :
    Conducts Fails Graph.HasNode (Emit.int64Constant values) draft := by
  obtain ⟨value, rest, rfl⟩ := List.exists_cons_of_ne_nil given
  exact conducts_get (conducts_keep (.source rfl positive_length))

section Operations

variable (allows : ∀ obstacle, Fails (.obstructed obstacle))

include allows

theorem conducts_op {op : Op} {inputs : List NodeId} (window : ∀ extent ∈ op.windowExtents, 0 < extent) :
    Conducts Fails Graph.HasNode (Emit.op op inputs) draft := by
  apply conducts_get
  cases added : draft.graph.addOp op inputs with
  | error error => exact conducts_throw (allows _)
  | ok result =>
    obtain ⟨type, inferred, rfl⟩ := Graph.addOp_eq_ok.1 added
    exact conducts_keep (.op window inferred)

theorem conducts_plain {op : Op} {inputs : List NodeId} (plain : op.windowExtents = []) :
    Conducts Fails Graph.HasNode (Emit.op op inputs) draft := by
  apply conducts_op allows
  rw [plain]
  exact List.forall_mem_nil _

theorem conducts_transpose (id : NodeId) {order : List Int64} (given : order ≠ []) :
    Conducts Fails Graph.HasNode (Emit.transpose id order) draft := by
  apply (conducts_int64Constant given).bind
  intro constant after _ _
  exact conducts_plain allows rfl

end Operations

end Steps

end PartitionLowering
