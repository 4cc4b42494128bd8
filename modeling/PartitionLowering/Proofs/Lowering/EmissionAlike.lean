import PartitionLowering.Lowering.Emission
import PartitionLowering.Proofs.Engine.Reading
import PartitionLowering.Proofs.Lowering.SideBySide

/-!
The lowering of a node in two runs side by side.  `Likeness.Scopes` says what two scopes have to share:
the operands that the node reads are bound to nodes that are alike and flagged alike, and their tensors
have the same dims and the same 32-bit integers.  Main statement: `Recipe.emits_emit`, for all recipes;
before it, one statement for each part of a lowering.  Changes of layout are in step as well
(`emits_toEngine`, `emits_toHost`).
-/

set_option autoImplicit false

namespace PartitionLowering

/-- Tensors of which the lowering of a node reads the same. -/
structure Tensor.ReadAlike (tensor other : Tensor) : Prop where
  dims : tensor.dims = other.dims
  integers : tensor.int32Values? = other.int32Values?

/-- The input positions in front that are read from their tensors and not from their nodes. -/
def Recipe.unbound : Recipe → Nat
  | .transposeConv => 1
  | _ => 0

theorem alike_node {names : Renaming} {Related : NodeId → NodeId → Prop} {index : OperandIndex}
    {registry registry' : Registry}
    (bound : Option.Rel Related (registry.node? index) (registry'.node? (names index))) :
    Alike names Related (registry.node index) (registry'.node (names index)) := by
  rw [Registry.node, Registry.node]
  rcases rel_cases bound with ⟨free, free'⟩ | ⟨id, id', bound, bound', same⟩
  · rw [free, free']
    exact alike_error (.missingOperand index)
  · rw [bound, bound']
    exact alike_ok same

namespace Likeness

variable {like : Likeness} {names : Renaming}

/-- Two scopes for the lowering of one node.  Operands at positions before `start` need no nodes. -/
structure Scopes (like : Likeness) (names : Renaming) (start : Nat) (graph graph' : Graph)
    (inputs : List OperandIndex) (scope scope' : Scope) : Prop where
  sign : ∀ index ∈ inputs, 0 ≤ names index ↔ 0 ≤ index
  bound : ∀ index ∈ inputs.drop start,
    Option.Rel (like.Ids graph graph') (scope.registry.node? index)
      (scope'.registry.node? (names index))
  flagged : ∀ index ∈ inputs.drop start,
    scope'.registry.isFlagged (names index) = scope.registry.isFlagged index
  tensors : ∀ index ∈ inputs,
    Option.Rel Tensor.ReadAlike (scope.tensors.get? index) (scope'.tensors.get? (names index))

/-! ## Operands -/

section Operands

variable {start : Nat} {graph graph' : Graph} {inputs : List OperandIndex} {scope scope' : Scope}
  {draft draft' after after' : Draft}

theorem Scopes.mono (scopes : like.Scopes names start draft.graph draft'.graph inputs scope scope')
    (steps : like.Steps draft draft' after after') :
    like.Scopes names start after.graph after'.graph inputs scope scope' := by
  refine ⟨scopes.sign, ?_, scopes.flagged, scopes.tensors⟩
  intro index member
  rcases rel_cases (scopes.bound index member) with ⟨free, free'⟩ | ⟨id, id', bound, bound', same⟩
  · rw [free, free']
    exact .none
  · rw [bound, bound']
    exact .some (steps.ids same)

theorem mem_drop_of_getElem? {position : Nat} {index : OperandIndex} (late : start ≤ position)
    (here : inputs[position]? = some index) : index ∈ inputs.drop start := by
  have later : start + (position - start) = position := by omega
  have there : (inputs.drop start)[position - start]? = some index := by
    rw [List.getElem?_drop, later, here]
  exact List.mem_of_getElem? there

variable (scopes : like.Scopes names start graph graph' inputs scope scope')

include scopes

theorem Scopes.input (recipe : Recipe) {position : Nat} (late : start ≤ position) :
    Alike names (like.Ids graph graph') (scope.input recipe inputs position)
      (scope'.input recipe (inputs.map names) position) := by
  rw [Scope.input, Scope.input, Scope.operand, Scope.operand, List.getElem?_map]
  cases here : inputs[position]? with
  | none => exact alike_error (.obstructed (.missingInput recipe position))
  | some index =>
    have sign := scopes.sign index (List.mem_of_getElem? here)
    simp only [Option.map_some, ok_bind]
    by_cases valid : 0 ≤ index
    · rw [if_neg (Int32.not_lt.2 valid), if_neg (Int32.not_lt.2 (sign.2 valid))]
      exact alike_node (scopes.bound index (mem_drop_of_getElem? late here))
    · have negative : names index < 0 := Int32.not_le.1 fun valid' => valid (sign.1 valid')
      rw [if_pos (Int32.not_le.1 valid), if_pos negative]
      exact alike_error (.missingOperand index)

theorem Scopes.optionalInput {position : Nat} (late : start ≤ position) :
    Alike names (Option.Rel (like.Ids graph graph')) (scope.optionalInput inputs position)
      (scope'.optionalInput (inputs.map names) position) := by
  rw [Scope.optionalInput, Scope.optionalInput, List.getElem?_map]
  cases here : inputs[position]? with
  | none => exact alike_ok .none
  | some index =>
    have sign := scopes.sign index (List.mem_of_getElem? here)
    simp only [Option.map_some]
    by_cases valid : 0 ≤ index
    · rw [if_pos valid, if_pos (sign.2 valid)]
      have found := alike_node (scopes.bound index (mem_drop_of_getElem? late here))
      exact found.bind fun _ _ same => alike_ok (.some same)
    · have negative : ¬0 ≤ names index := fun valid' => valid (sign.1 valid')
      rw [if_neg valid, if_neg negative]
      exact alike_ok .none

theorem Scopes.tensor {index : OperandIndex} (member : index ∈ inputs) :
    Alike names Tensor.ReadAlike (Scope.tensor scope.tensors index)
      (Scope.tensor scope'.tensors (names index)) := by
  rw [Scope.tensor, Scope.tensor]
  rcases rel_cases (scopes.tensors index member) with
    ⟨none, none'⟩ | ⟨tensor, tensor', known, known', same⟩
  · rw [none, none']
    exact alike_error (.missingOperand index)
  · rw [known, known']
    exact alike_ok same

theorem Scopes.dims (recipe : Recipe) (position : Nat) :
    Alike names Eq (scope.dims recipe inputs position)
      (scope'.dims recipe (inputs.map names) position) := by
  rw [Scope.dims, Scope.dims, Scope.operand, Scope.operand, List.getElem?_map]
  cases here : inputs[position]? with
  | none => exact alike_error (.obstructed (.missingInput recipe position))
  | some index =>
    apply (scopes.tensor (List.mem_of_getElem? here)).bind
    intro tensor tensor' same
    exact alike_ok same.dims

theorem Scopes.isFlagged {position : Nat} (late : start ≤ position) :
    scope'.isFlagged (inputs.map names) position = scope.isFlagged inputs position := by
  rw [Scope.isFlagged, Scope.isFlagged, List.getElem?_map]
  cases here : inputs[position]? with
  | none => rfl
  | some index => exact scopes.flagged index (mem_drop_of_getElem? late here)

omit scopes in
theorem Scopes.allInputs (scopes : like.Scopes names 0 graph graph' inputs scope scope')
    (recipe : Recipe) :
    Alike names (List.Forall₂ (like.Ids graph graph')) (Emission.allInputs scope recipe inputs)
      (Emission.allInputs scope' recipe (inputs.map names)) := by
  rw [Emission.allInputs, Emission.allInputs, List.length_map]
  exact alike_mapM fun position _ => scopes.input recipe (Nat.zero_le position)

theorem Scopes.meanAxes :
    Alike names Eq (Emission.meanAxes scope inputs)
      (Emission.meanAxes scope' (inputs.map names)) := by
  rw [Emission.meanAxes, Emission.meanAxes, List.getElem?_map]
  cases here : inputs[1]? with
  | none => exact alike_error (.obstructed .missingAxes)
  | some index =>
    apply (scopes.tensor (List.mem_of_getElem? here)).bind
    intro tensor tensor' same
    rw [same.integers]
    rcases tensor'.int32Values? with _ | _ | ⟨axis, rest⟩
    · exact alike_error (.obstructed .axesWithoutData)
    · exact alike_error (.obstructed .axesWithoutData)
    · exact alike_ok rfl

theorem Scopes.outputDims :
    Alike names Eq (Emission.outputDims scope inputs)
      (Emission.outputDims scope' (inputs.map names)) := by
  rw [Emission.outputDims, Emission.outputDims, List.head?_map]
  cases here : inputs.head? with
  | none => exact alike_error (.obstructed .missingOutputShape)
  | some index =>
    apply (scopes.tensor (List.mem_of_mem_head? here)).bind
    intro tensor tensor' same
    rw [same.integers]
    cases tensor'.int32Values? with
    | none => exact alike_error (.obstructed .outputShapeWithoutData)
    | some dims => exact alike_ok rfl

end Operands

/-! ## Parameters of a node -/

section Parameters

theorem obstructs_positive (recipe : Recipe) (parameter : String) (value : Int32) :
    Obstructs (Fusion.positive recipe parameter value) := by
  rw [Fusion.positive]
  by_cases low : value ≤ 0
  · rw [if_pos low]
    exact obstructs_error _
  · rw [if_neg low]
    exact obstructs_ok _

theorem obstructs_extents (recipe : Recipe) (first second : String) (height width : Int32) :
    Obstructs (do
      let height ← Fusion.positive recipe first height
      let width ← Fusion.positive recipe second width
      return (⟨height, width⟩ : Spatial)) := by
  apply (obstructs_positive recipe first height).bind
  intro height
  apply (obstructs_positive recipe second width).bind
  intro width
  exact obstructs_ok _

theorem obstructs_padMode (padding : Padding) : Obstructs (Fusion.padMode padding) := by
  cases padding with
  | unknown => exact obstructs_error _
  | same => exact obstructs_ok _
  | valid => exact obstructs_ok _

theorem obstructs_activationOp (activation : Activation) :
    Obstructs (Fusion.activationOp activation) := by
  cases activation with
  | signBit => exact obstructs_error _
  | _ => exact obstructs_ok _

theorem obstructs_poolAttributes (recipe : Recipe) (options : Pool2dOptions) (padMode : PadMode) :
    Obstructs (Emission.poolAttributes recipe options padMode) := by
  apply (obstructs_extents recipe _ _ options.strideHeight options.strideWidth).bind
  intro strides
  apply (obstructs_extents recipe _ _ options.filterHeight options.filterWidth).bind
  intro kernel
  exact obstructs_ok _

theorem obstructs_inputChannels (dims : List Int32) : Obstructs (Emission.inputChannels dims) := by
  rw [Emission.inputChannels]
  cases dims[3]? with
  | none => exact obstructs_error _
  | some channels => exact obstructs_positive _ _ channels

theorem obstructs_groupedShape (channels : Nat) (filter : Shape) :
    Obstructs (Emission.groupedShape channels filter) := by
  rw [Emission.groupedShape]
  by_cases uneven : filter.getD 1 0 = 0 ∨ channels % filter.getD 1 0 ≠ 0
  · rw [if_pos uneven]
    exact obstructs_error _
  · rw [if_neg uneven]
    by_cases rest : filter.getD 0 0 % (channels / filter.getD 1 0) ≠ 0
    · rw [if_pos rest]
      exact obstructs_error _
    · rw [if_neg rest]
      exact obstructs_ok _

end Parameters

/-! ## Fused parts -/

section Fused

variable {start : Nat} {inputs : List OperandIndex} {scope scope' : Scope} {draft draft' : Draft}

theorem emits_activate {id id' : NodeId} (same : like.Ids draft.graph draft'.graph id id')
    (activation : Activation) :
    like.Emits names like.Ids (Fusion.activate id activation) draft (Fusion.activate id' activation)
      draft' := by
  apply (emits_same (obstructs_activationOp activation)).bind
  rintro op? _ after after' steps rfl
  have same' := steps.ids same
  cases op? with
  | none => exact emits_pure same'
  | some op => exact (emits_op op (.cons same' .nil)).map fun _ _ _ _ nodes => nodes.1

theorem emits_addBias {producer producer' : Node}
    (same : like.Nodes draft.graph draft'.graph producer producer') {bias bias' : NodeId}
    (biases : like.Ids draft.graph draft'.graph bias bias') (dims : List Int32) :
    like.Emits names like.Nodes (Fusion.addBias producer bias dims) draft
      (Fusion.addBias producer' bias' dims) draft' := by
  cases dims with
  | nil => exact emits_throw (.obstructed .biasWithoutDims)
  | cons channels rest =>
    have rank : producer.rank = producer'.rank := congrArg List.length same.2
    rw [Fusion.addBias, Fusion.addBias, rank]
    apply (emits_int32Constant _).bind
    intro pattern pattern' first first' steps there
    apply (emits_op (.reshape true) (.cons (steps.ids biases) (.cons there.1 .nil))).bind
    intro shaped shaped' second second' steps' nodes
    have produced := (steps.trans steps').ids same.1
    exact emits_op .add (.cons produced (.cons nodes.1 .nil))

theorem emits_optionalInput
    (scopes : like.Scopes names start draft.graph draft'.graph inputs scope scope') {position : Nat}
    (late : start ≤ position) :
    like.Emits names (fun graph graph' => Option.Rel (like.Ids graph graph'))
      (liftM (scope.optionalInput inputs position)) draft
      (liftM (scope'.optionalInput (inputs.map names) position)) draft' :=
  emits_lift (scopes.optionalInput late)

theorem emits_addOptionalBias
    (scopes : like.Scopes names start draft.graph draft'.graph inputs scope scope') (recipe : Recipe)
    {position : Nat} (late : start ≤ position) {producer producer' : Node}
    (same : like.Nodes draft.graph draft'.graph producer producer') :
    like.Emits names like.Nodes (Fusion.addOptionalBias scope recipe inputs position producer) draft
      (Fusion.addOptionalBias scope' recipe (inputs.map names) position producer') draft' := by
  apply (emits_optionalInput scopes late).bind
  intro bias? bias'? after after' steps found
  cases found with
  | none => exact emits_pure (steps.nodes same)
  | some biases =>
    apply (emits_eq (scopes.dims recipe position)).bind
    rintro dims _ last last' steps' rfl
    exact emits_addBias ((steps.trans steps').nodes same) (steps'.ids biases) dims

end Fused

/-! ## Recipes -/

section Recipes

variable {inputs : List OperandIndex} {scope scope' : Scope} {draft draft' : Draft}

theorem emits_unexpected {α β : Type} {Shows : Graph → Graph → α → β → Prop} (recipe : Recipe)
    (options : BuiltinOptions) :
    like.Emits names Shows (Fusion.unexpected recipe options) draft
      (Fusion.unexpected recipe options) draft' :=
  emits_throw (.invalidArgument (.optionsOfRecipe recipe options))

section Bound

variable (scopes : like.Scopes names 0 draft.graph draft'.graph inputs scope scope')

include scopes

theorem emits_input (recipe : Recipe) (position : Nat) :
    like.Emits names like.Ids (liftM (scope.input recipe inputs position)) draft
      (liftM (scope'.input recipe (inputs.map names) position)) draft' :=
  emits_lift (scopes.input recipe (Nat.zero_le position))

theorem emits_allInputs (recipe : Recipe) :
    like.Emits names (fun graph graph' => List.Forall₂ (like.Ids graph graph'))
      (liftM (Emission.allInputs scope recipe inputs)) draft
      (liftM (Emission.allInputs scope' recipe (inputs.map names))) draft' :=
  emits_lift (scopes.allInputs recipe)

theorem emits_unary (recipe : Recipe) (op : Op) :
    like.Emits names like.Ids (Emission.unary recipe op scope inputs) draft
      (Emission.unary recipe op scope' (inputs.map names)) draft' := by
  apply (emits_input scopes recipe 0).bind
  intro data data' after after' _ same
  exact (emits_op op (.cons same .nil)).map fun _ _ _ _ nodes => nodes.1

theorem emits_binary (recipe : Recipe) (op : Op) (activation : Activation) :
    like.Emits names like.Ids (Emission.binary recipe op scope inputs activation) draft
      (Emission.binary recipe op scope' (inputs.map names) activation) draft' := by
  apply (emits_input scopes recipe 0).bind
  intro lhs lhs' first first' steps left
  apply (emits_input (scopes.mono steps) recipe 1).bind
  intro rhs rhs' second second' steps' right
  apply (emits_op op (.cons (steps'.ids left) (.cons right .nil))).bind
  intro result result' third third' _ nodes
  exact emits_activate nodes.1 activation

theorem emits_add (options : BuiltinOptions) :
    like.Emits names like.Ids (Emission.add scope inputs options) draft
      (Emission.add scope' (inputs.map names) options) draft' := by
  cases options with
  | add options => exact emits_binary scopes .add .add options.activation
  | _ => exact emits_unexpected .add _

theorem emits_mul (options : BuiltinOptions) :
    like.Emits names like.Ids (Emission.mul scope inputs options) draft
      (Emission.mul scope' (inputs.map names) options) draft' := by
  cases options with
  | mul options => exact emits_binary scopes .mul .multiply options.activation
  | _ => exact emits_unexpected .mul _

theorem emits_averagePool2d (options : BuiltinOptions) :
    like.Emits names like.Ids (Emission.averagePool2d scope inputs options) draft
      (Emission.averagePool2d scope' (inputs.map names) options) draft' := by
  cases options with
  | pool2d options =>
    apply (emits_input scopes .averagePool2d 0).bind
    intro data data' first first' _ same
    apply (emits_same (obstructs_padMode options.padding)).bind
    rintro padMode _ second second' steps rfl
    apply (emits_same (obstructs_poolAttributes .averagePool2d options padMode)).bind
    rintro attributes _ third third' steps' rfl
    apply (emits_op (.avgPool attributes true) (.cons ((steps.trans steps').ids same) .nil)).bind
    intro result result' fourth fourth' _ nodes
    exact emits_activate nodes.1 options.activation
  | _ => exact emits_unexpected .averagePool2d _

theorem emits_maxPool2d (options : BuiltinOptions) :
    like.Emits names like.Ids (Emission.maxPool2d scope inputs options) draft
      (Emission.maxPool2d scope' (inputs.map names) options) draft' := by
  cases options with
  | pool2d options =>
    apply (emits_input scopes .maxPool2d 0).bind
    intro data data' first first' _ same
    apply (emits_same (obstructs_poolAttributes .maxPool2d options _)).bind
    rintro attributes _ second second' steps rfl
    apply (emits_op (.maxPool attributes) (.cons (steps.ids same) .nil)).bind
    intro result result' third third' _ nodes
    exact emits_activate nodes.1 options.activation
  | _ => exact emits_unexpected .maxPool2d _

theorem emits_concatenation (options : BuiltinOptions) :
    like.Emits names like.Ids (Emission.concatenation scope inputs options) draft
      (Emission.concatenation scope' (inputs.map names) options) draft' := by
  cases options with
  | concatenation options =>
    rw [Emission.concatenation, Emission.concatenation, List.length_map]
    by_cases few : inputs.length < 2
    · rw [if_pos few, if_pos few]
      exact emits_throw (.obstructed .fewParts)
    · rw [if_neg few, if_neg few]
      apply (emits_allInputs scopes .concatenation).bind
      intro parts parts' first first' _ same
      apply (emits_op (.concat 1) same).bind
      intro result result' second second' _ nodes
      exact emits_activate nodes.1 options.activation
  | _ => exact emits_unexpected .concatenation _

omit scopes in
theorem emits_optionPattern (options : BuiltinOptions) :
    like.Emits names like.Ids (Emission.optionPattern options) draft
      (Emission.optionPattern options) draft' := by
  cases options with
  | reshape options =>
    rw [Emission.optionPattern]
    by_cases empty : options.newShape = []
    · rw [if_pos empty]
      exact emits_throw (.obstructed .noTargetShape)
    · rw [if_neg empty]
      exact (emits_int32Constant _).map fun _ _ _ _ nodes => nodes.1
  | _ => exact emits_throw (.obstructed .noTargetShape)

theorem emits_reshape (options : BuiltinOptions) :
    like.Emits names like.Ids (Emission.reshape scope inputs options) draft
      (Emission.reshape scope' (inputs.map names) options) draft' := by
  apply (emits_input scopes .reshape 0).bind
  intro data data' first first' steps same
  apply (emits_optionalInput (scopes.mono steps) (Nat.zero_le 1)).bind
  intro pattern? pattern'? second second' steps' found
  have source := steps'.ids same
  cases found with
  | none =>
    apply (emits_optionPattern options).bind
    intro pattern pattern' third third' later patterns
    apply (emits_op (.reshape false) (.cons (later.ids source) (.cons patterns .nil))).map
    exact fun _ _ _ _ nodes => nodes.1
  | some patterns =>
    apply (emits_op (.reshape false) (.cons source (.cons patterns .nil))).map
    exact fun _ _ _ _ nodes => nodes.1

theorem emits_resizeBilinear (options : BuiltinOptions) :
    like.Emits names like.Ids (Emission.resizeBilinear scope inputs options) draft
      (Emission.resizeBilinear scope' (inputs.map names) options) draft' := by
  cases options with
  | resizeBilinear options =>
    apply (emits_input scopes .resizeBilinear 0).bind
    intro data data' first first' steps same
    apply (emits_input (scopes.mono steps) .resizeBilinear 1).bind
    intro sizes sizes' second second' steps' targets
    apply (emits_int32Constant [2, 3]).bind
    intro axes axes' third third' later nodes
    have source := (steps'.trans later).ids same
    apply (emits_op _ (.cons source (.cons (later.ids targets) (.cons nodes.1 .nil)))).map
    exact fun _ _ _ _ nodes => nodes.1
  | _ => exact emits_unexpected .resizeBilinear _

theorem emits_mean (options : BuiltinOptions) :
    like.Emits names like.Ids (Emission.mean scope inputs options) draft
      (Emission.mean scope' (inputs.map names) options) draft' := by
  cases options with
  | reducer options =>
    apply (emits_input scopes .mean 0).bind
    intro data data' first first' _ same
    apply (emits_eq scopes.meanAxes).bind
    rintro axes _ second second' steps rfl
    apply (emits_note _ _).bind
    intro _ _ third third' steps' _
    apply (emits_int32Constant _).bind
    intro constant constant' fourth fourth' steps'' nodes
    have source := ((steps.trans steps').trans steps'').ids same
    apply (emits_op _ (.cons source (.cons nodes.1 .nil))).map
    exact fun _ _ _ _ nodes => nodes.1
  | _ => exact emits_unexpected .mean _

end Bound

/-! ### Convolutions -/

section Convolutions

variable {start : Nat}

theorem emits_convFilter
    (scopes : like.Scopes names 0 draft.graph draft'.graph inputs scope scope') {filter filter' : NodeId}
    (same : like.Ids draft.graph draft'.graph filter filter') :
    like.Emits names like.Ids (Emission.convFilter scope inputs filter) draft
      (Emission.convFilter scope' (inputs.map names) filter') draft' := by
  rw [Emission.convFilter, Emission.convFilter, scopes.isFlagged (Nat.zero_le 1)]
  by_cases flagged : scope.isFlagged inputs 1
  · rw [if_pos flagged, if_pos flagged]
    exact emits_pure same
  · rw [if_neg flagged, if_neg flagged]
    exact (emits_transpose same _).map fun _ _ _ _ nodes => nodes.1

theorem emits_conv2d (scopes : like.Scopes names 0 draft.graph draft'.graph inputs scope scope')
    (options : BuiltinOptions) :
    like.Emits names like.Ids (Emission.conv2d scope inputs options) draft
      (Emission.conv2d scope' (inputs.map names) options) draft' := by
  cases options with
  | conv2d options =>
    apply (emits_input scopes .conv2d 0).bind
    intro data data' first first' steps same
    apply (emits_input (scopes.mono steps) .conv2d 1).bind
    intro filter filter' second second' steps₁ filters
    apply (emits_convFilter (scopes.mono (steps.trans steps₁)) filters).bind
    intro ordered ordered' third third' steps₂ filters'
    apply (emits_same (obstructs_extents .conv2d _ _ options.strideHeight options.strideWidth)).bind
    rintro strides _ fourth fourth' steps₃ rfl
    apply (emits_same (obstructs_extents .conv2d _ _ options.dilationHeightFactor
      options.dilationWidthFactor)).bind
    rintro dilations _ fifth fifth' steps₄ rfl
    apply (emits_same (obstructs_padMode options.padding)).bind
    rintro padMode _ sixth sixth' steps₅ rfl
    have checked := (steps₃.trans steps₄).trans steps₅
    have late := (steps₁.trans steps₂).trans checked
    apply (emits_op _ (.cons (late.ids same) (.cons (checked.ids filters') .nil))).bind
    intro result result' seventh seventh' steps₆ nodes
    have scopes' := scopes.mono ((steps.trans late).trans steps₆)
    apply (emits_addOptionalBias scopes' .conv2d (Nat.zero_le 2) nodes).bind
    intro biased biased' eighth eighth' _ nodes'
    exact emits_activate nodes'.1 options.activation
  | _ => exact emits_unexpected .conv2d _

theorem emits_orderedFilter
    (scopes : like.Scopes names start draft.graph draft'.graph inputs scope scope') {position : Nat}
    (late : start ≤ position) {filter filter' : NodeId}
    (same : like.Ids draft.graph draft'.graph filter filter') :
    like.Emits names like.Nodes
      (Emit.transpose filter
        (if scope.isFlagged inputs position then Emission.swapOuterAxes else Emission.lastAxisFirst))
      draft
      (Emit.transpose filter'
        (if scope'.isFlagged (inputs.map names) position then Emission.swapOuterAxes
          else Emission.lastAxisFirst)) draft' := by
  rw [scopes.isFlagged late]
  exact emits_transpose same _

theorem emits_depthwiseConv2d
    (scopes : like.Scopes names 0 draft.graph draft'.graph inputs scope scope')
    (options : BuiltinOptions) :
    like.Emits names like.Ids (Emission.depthwiseConv2d scope inputs options) draft
      (Emission.depthwiseConv2d scope' (inputs.map names) options) draft' := by
  cases options with
  | depthwiseConv2d options =>
    apply (emits_input scopes .depthwiseConv2d 0).bind
    intro data data' first first' steps same
    apply (emits_input (scopes.mono steps) .depthwiseConv2d 1).bind
    intro filter filter' second second' steps₁ filters
    apply (emits_orderedFilter (scopes.mono (steps.trans steps₁)) (Nat.zero_le 1) filters).bind
    intro ordered ordered' third third' steps₂ filters'
    apply (emits_eq (scopes.dims .depthwiseConv2d 0)).bind
    rintro dims _ fourth fourth' steps₃ rfl
    apply (emits_same (obstructs_inputChannels dims)).bind
    rintro channels _ fifth fifth' steps₄ rfl
    rw [← filters'.2]
    apply (emits_same (obstructs_groupedShape channels ordered.shape)).bind
    rintro grouped _ sixth sixth' steps₅ rfl
    apply (emits_int64Constant _).bind
    intro pattern pattern' seventh seventh' steps₆ patterns
    have checked := ((steps₃.trans steps₄).trans steps₅).trans steps₆
    apply (emits_op (.reshape false) (.cons (checked.ids filters'.1) (.cons patterns.1 .nil))).bind
    intro shaped shaped' eighth eighth' steps₇ filters''
    apply (emits_same (obstructs_extents .depthwiseConv2d _ _ options.strideHeight
      options.strideWidth)).bind
    rintro strides _ ninth ninth' steps₈ rfl
    apply (emits_same (obstructs_extents .depthwiseConv2d _ _ options.dilationHeightFactor
      options.dilationWidthFactor)).bind
    rintro dilations _ tenth tenth' steps₉ rfl
    apply (emits_same (obstructs_padMode options.padding)).bind
    rintro padMode _ eleventh eleventh' steps₁₀ rfl
    have checked' := (steps₈.trans steps₉).trans steps₁₀
    have late := (((steps₁.trans steps₂).trans checked).trans steps₇).trans checked'
    apply (emits_op _ (.cons (late.ids same) (.cons (checked'.ids filters''.1) .nil))).bind
    intro result result' twelfth twelfth' steps₁₁ nodes
    have scopes' := scopes.mono ((steps.trans late).trans steps₁₁)
    apply (emits_addOptionalBias scopes' .depthwiseConv2d (Nat.zero_le 2) nodes).bind
    intro biased biased' last last' _ nodes'
    exact emits_activate nodes'.1 options.activation
  | _ => exact emits_unexpected .depthwiseConv2d _

theorem emits_backpropData
    (scopes : like.Scopes names start draft.graph draft'.graph inputs scope scope') (recipe : Recipe)
    {inputPosition weightsPosition : Nat} (late : start ≤ inputPosition)
    (late' : start ≤ weightsPosition) (options : TransposeConvOptions) (height width : Int32) :
    like.Emits names like.Nodes
      (Emission.backpropData scope recipe inputs inputPosition weightsPosition options height width)
      draft
      (Emission.backpropData scope' recipe (inputs.map names) inputPosition weightsPosition options
        height width) draft' := by
  apply (emits_lift (scopes.input recipe late)).bind
  intro data data' first first' steps same
  apply (emits_lift ((scopes.mono steps).input recipe late')).bind
  intro weights weights' second second' steps₁ filters
  apply (emits_orderedFilter (scopes.mono (steps.trans steps₁)) late' filters).bind
  intro ordered ordered' third third' steps₂ filters'
  apply (emits_same (obstructs_extents recipe _ _ options.strideHeight options.strideWidth)).bind
  rintro strides _ fourth fourth' steps₃ rfl
  apply (emits_int32Constant [height, width]).bind
  intro sizes sizes' fifth fifth' steps₄ targets
  have later := steps₃.trans steps₄
  have source := ((steps₁.trans steps₂).trans later).ids same
  exact emits_op _ (.cons source (.cons (later.ids filters'.1) (.cons targets.1 .nil)))

/-- The operand of the output dims needs no node. -/
theorem emits_transposeConv
    (scopes : like.Scopes names 1 draft.graph draft'.graph inputs scope scope')
    (options : BuiltinOptions) :
    like.Emits names like.Ids (Emission.transposeConv scope inputs options) draft
      (Emission.transposeConv scope' (inputs.map names) options) draft' := by
  cases options with
  | transposeConv options =>
    apply (emits_eq scopes.outputDims).bind
    rintro dims _ first first' steps rfl
    rcases dims with _ | ⟨batch, _ | ⟨height, _ | ⟨width, rest⟩⟩⟩
    · exact emits_throw (.obstructed (.outputShapeNotNhwc _))
    · exact emits_throw (.obstructed (.outputShapeNotNhwc _))
    · exact emits_throw (.obstructed (.outputShapeNotNhwc _))
    · have scopes₁ := scopes.mono steps
      apply (emits_backpropData scopes₁ .transposeConv (by decide) (by decide) options height
        width).bind
      intro result result' second second' steps₁ nodes
      apply (emits_addOptionalBias (scopes₁.mono steps₁) .transposeConv (by decide) nodes).bind
      intro biased biased' third third' _ nodes'
      exact emits_activate nodes'.1 options.activation
  | _ => exact emits_unexpected .transposeConv _

theorem emits_transposeConvBias
    (scopes : like.Scopes names 0 draft.graph draft'.graph inputs scope scope')
    (options : BuiltinOptions) :
    like.Emits names like.Ids (Emission.transposeConvBias scope inputs options) draft
      (Emission.transposeConvBias scope' (inputs.map names) options) draft' := by
  cases options with
  | transposeConv options =>
    apply (emits_eq (scopes.dims .transposeConvBias 0)).bind
    rintro dims _ first first' steps rfl
    rcases dims with _ | ⟨batch, _ | ⟨height, _ | ⟨width, rest⟩⟩⟩
    · exact emits_throw (.obstructed (.inputNotNhwc .transposeConvBias _))
    · exact emits_throw (.obstructed (.inputNotNhwc .transposeConvBias _))
    · exact emits_throw (.obstructed (.inputNotNhwc .transposeConvBias _))
    · have scopes₁ := scopes.mono steps
      apply (emits_backpropData scopes₁ .transposeConvBias (Nat.zero_le 0) (Nat.zero_le 1) options
        (height * 2) (width * 2)).bind
      intro result result' second second' steps₁ nodes
      apply (emits_input (scopes₁.mono steps₁) .transposeConvBias 2).bind
      intro bias bias' third third' steps₂ biases
      apply (emits_eq (scopes.dims .transposeConvBias 2)).bind
      rintro biasDims _ fourth fourth' steps₃ rfl
      have produced := (steps₂.trans steps₃).nodes nodes
      apply (emits_addBias produced (steps₃.ids biases) biasDims).map
      exact fun _ _ _ _ nodes => nodes.1
  | _ => exact emits_unexpected .transposeConvBias _

end Convolutions

end Recipes

/-! ## Layouts -/

section Layouts

variable {draft draft' : Draft} {id id' : NodeId}

theorem emits_toEngine (same : like.Ids draft.graph draft'.graph id id')
    (there : draft.graph.contains id = true) (there' : draft'.graph.contains id' = true)
    (dims : List Int32) :
    like.Emits names like.Ids (Layout.toEngine dims id) draft (Layout.toEngine dims id') draft' := by
  apply emits_get
  rw [if_pos there, if_pos there']
  by_cases scalar : dims = []
  · rw [if_pos scalar, if_pos scalar]
    exact emits_throw (.invalidArgument .scalarLayout)
  by_cases high : 4 < dims.length
  · rw [if_neg scalar, if_pos high, if_neg scalar, if_pos high]
    exact emits_throw (.unsupportedRank dims.length)
  rw [if_neg scalar, if_neg high, if_neg scalar, if_neg high]
  -- the transpose comes last, whether or not a reshape stands before it
  have finish : ∀ {after after' : Draft} {image image' : NodeId},
      like.Ids after.graph after'.graph image image' →
      like.Emits names like.Ids
        (do
          let order ← Emit.int32Constant (Layout.toEngineOrder.map Int64.toInt32)
          let result ← Emit.op .transpose [image, order.id]
          pure result.id) after
        (do
          let order ← Emit.int32Constant (Layout.toEngineOrder.map Int64.toInt32)
          let result ← Emit.op .transpose [image', order.id]
          pure result.id) after' := by
    intro after after' image image' images
    apply (emits_int32Constant _).bind
    intro order order' last last' steps orders
    exact (emits_op .transpose (.cons (steps.ids images) (.cons orders.1 .nil))).map
      fun _ _ _ _ nodes => nodes.1
  by_cases short : dims.length < 4
  · rw [if_pos short, if_pos short]
    apply (emits_int32Constant _).bind
    intro pattern pattern' first first' steps patterns
    apply (emits_op (.reshape false) (.cons (steps.ids same) (.cons patterns.1 .nil))).bind
    intro image image' second second' _ images
    simp only [pure_bind]
    exact finish images.1
  · rw [if_neg short, if_neg short]
    simp only [pure_bind]
    exact finish same

theorem emits_toHost (same : like.Ids draft.graph draft'.graph id id')
    (there : draft.graph.contains id = true) :
    like.Emits names like.Ids (Layout.toHost id) draft (Layout.toHost id') draft' := by
  intro graphs
  have below : id < draft.graph.size := by simpa [Graph.contains] using there
  obtain ⟨image, found⟩ := Graph.exists_node?_of_lt_size below
  have typed := like.typed graphs same
  rw [found] at typed
  obtain ⟨image', found', alike⟩ := Option.map_eq_some_iff.1 typed.symm
  have rank : image'.rank = image.rank := Node.Alike.rank alike
  refine emits_get ?_ graphs
  simp only [found, found', rank]
  by_cases four : image.rank = 4
  · rw [if_pos four, if_pos four]
    exact (emits_transpose same _).map fun _ _ _ _ nodes => nodes.1
  · rw [if_neg four, if_neg four]
    exact emits_throw (.unsupportedRank image.rank)

end Layouts

end Likeness

/-- The lowering of a node comes to the same on scopes that are alike. -/
theorem Recipe.emits_emit (recipe : Recipe) {like : Likeness} {names : Renaming}
    {inputs : List OperandIndex} {scope scope' : Scope} {draft draft' : Draft}
    (scopes : like.Scopes names recipe.unbound draft.graph draft'.graph inputs scope scope')
    (options : BuiltinOptions) :
    like.Emits names like.Ids (recipe.emit scope inputs options) draft
      (recipe.emit scope' (inputs.map names) options) draft' := by
  cases recipe with
  | add => exact Likeness.emits_add scopes options
  | mul => exact Likeness.emits_mul scopes options
  | averagePool2d => exact Likeness.emits_averagePool2d scopes options
  | maxPool2d => exact Likeness.emits_maxPool2d scopes options
  | concatenation => exact Likeness.emits_concatenation scopes options
  | conv2d => exact Likeness.emits_conv2d scopes options
  | depthwiseConv2d => exact Likeness.emits_depthwiseConv2d scopes options
  | transposeConv => exact Likeness.emits_transposeConv scopes options
  | transposeConvBias => exact Likeness.emits_transposeConvBias scopes options
  | reshape => exact Likeness.emits_reshape scopes options
  | mean => exact Likeness.emits_mean scopes options
  | resizeBilinear => exact Likeness.emits_resizeBilinear scopes options
  | dequantize => exact Likeness.emits_unary scopes .dequantize (.convert .f32)
  | hardSwish => exact Likeness.emits_unary scopes .hardSwish .hSwish
  | logistic => exact Likeness.emits_unary scopes .logistic .sigmoid
  | relu => exact Likeness.emits_unary scopes .relu .relu
  | relu6 => exact Likeness.emits_unary scopes .relu6 (.clamp 0 6)
  | tanh => exact Likeness.emits_unary scopes .tanh .tanh
  | softmax => exact Likeness.emits_unary scopes .softmax (.softmax 1)

end PartitionLowering
