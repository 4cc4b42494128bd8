import PartitionLowering.Lowering.Builder
import PartitionLowering.Proofs.Bytes.Decoding
import PartitionLowering.Proofs.Engine.Arena
import PartitionLowering.Proofs.Engine.Layouts
import PartitionLowering.Proofs.Lowering.Outcome

/-!
Registering operands.  A graph input comes to stand as a node in the engine's layout and is flagged
(`registerInput_ok`); weights come to stand as a constant in the host's layout (`registerConstant_eq_ok`);
the first output of a node comes to stand as a node of the type that is told of it (`lowerNode_of_told`).
`Builder.Leaves` says all that a step leaves; there is an inversion and a construction for each step.
-/

set_option autoImplicit false

namespace PartitionLowering

/-! ## Layouts -/

namespace Layout

theorem shape_eq_ok {dims : List Int32} {shape : Shape} :
    Layout.shape dims = .ok shape ↔
      (∀ dim ∈ dims, 0 < dim) ∧ shape = dims.map fun dim => dim.toInt.toNat := by
  rw [Layout.shape]
  by_cases positive : ∀ dim ∈ dims, 0 < dim
  · have all : (dims.all fun dim => 0 < dim) = true := by simpa using positive
    rw [if_pos all, Except.ok.injEq]
    exact ⟨fun same => ⟨positive, same.symm⟩, fun both => both.2.symm⟩
  · have all : ¬(dims.all fun dim => 0 < dim) = true := by simpa using positive
    rw [if_neg all]
    exact ⟨nofun, fun both => absurd both.1 positive⟩

theorem map_imageDims (dims : List Int32) :
    (imageDims dims).map (fun dim => dim.toInt.toNat) =
      Shape.padLeft 4 (dims.map fun dim => dim.toInt.toNat) := by
  rw [imageDims, Shape.padLeft, List.map_append, List.map_replicate, List.length_map]
  rfl

theorem toInt_pos {dim : Int32} (positive : 0 < dim) : 0 < dim.toInt :=
  Int32.lt_iff_toInt_lt.1 positive

/-- The pattern that puts ones in front of positive dims. -/
theorem plain_imageDims {dims : List Int32} (positive : ∀ dim ∈ dims, 0 < dim) :
    Shape.Plain ((imageDims dims).map Int32.toInt) false := by
  intro entry member
  obtain ⟨dim, inside, rfl⟩ := List.mem_map.1 member
  refine ⟨?_, nofun⟩
  rw [imageDims] at inside
  rcases List.mem_append.1 inside with ones | given
  · rw [List.eq_of_mem_replicate ones]
    decide
  · exact Int.le_of_lt (toInt_pos (positive dim given))

/-- The pattern asks for the shape with ones in front. -/
theorem reshape_imageDims {dims : List Int32} {shape : Shape}
    (shaped : Layout.shape dims = .ok shape) (room : Shape.elementCount? shape ≠ none) :
    Shape.reshape shape ((imageDims dims).map Int32.toInt) false = .ok (Shape.padLeft 4 shape) := by
  obtain ⟨positive, rfl⟩ := shape_eq_ok.1 shaped
  obtain ⟨total, counted⟩ := Option.ne_none_iff_exists'.1 room
  have extents : ((imageDims dims).map Int32.toInt).map Int.toNat =
      Shape.padLeft 4 (dims.map fun dim => dim.toInt.toNat) := by
    rw [List.map_map, ← map_imageDims]
    rfl
  have kept : Shape.elementCount? (((imageDims dims).map Int32.toInt).map Int.toNat) = some total := by
    rw [extents, Shape.elementCount?_padLeft, counted]
  rw [Shape.reshape_of_plain (plain_imageDims positive) counted kept, extents]

theorem infer_reshape_imageDims {dims : List Int32} {shape : Shape} (elementType : ElementType)
    (shaped : Layout.shape dims = .ok shape) (room : Shape.elementCount? shape ≠ none) :
    (Op.reshape false).infer [.ofType (shape, elementType), .ofInt32s (imageDims dims)] =
      .ok (Shape.padLeft 4 shape, elementType) := by
  have integers : (Node.ofInt32s (imageDims dims)).integers? =
      some ((imageDims dims).map Int32.toInt) := Node.integers?_int32 _ _ rfl rfl
  simp only [Op.infer, Inference.reshape, Inference.twoInputs, Inference.integersAt, integers, ok_bind,
    Node.shape_ofType, Node.elementType_ofType, reshape_imageDims shaped room, pure_eq_ok]

theorem infer_transpose {node : Node} {order : List Int64} {shape : Shape}
    (permuted : Shape.permute node.shape (order.map Int64.toInt) = .ok shape) :
    Op.transpose.infer [node, .ofInt64s order] = .ok (shape, node.elementType) := by
  have integers : (Node.ofInt64s order).integers? = some (order.map Int64.toInt) :=
    Node.integers?_int64 _ _ rfl rfl
  simp only [Op.infer, Inference.transpose, Inference.twoInputs, Inference.integersAt, integers,
    ok_bind, permuted, pure_eq_ok]

theorem infer_transpose_toEngine (image : Shape) (rank : image.length = 4) (elementType : ElementType) :
    Op.transpose.infer
        [.ofType (image, elementType), .ofInt32s (toEngineOrder.map Int64.toInt32)] =
      .ok (image.channelsFirst, elementType) := by
  obtain ⟨batch, height, width, channels, rfl⟩ := Shape.exists_image rank
  have order : (toEngineOrder.map Int64.toInt32).map Int32.toInt = [0, 3, 1, 2] := by decide
  have integers : (Node.ofInt32s (toEngineOrder.map Int64.toInt32)).integers? = some [0, 3, 1, 2] := by
    rw [Node.integers?_int32 _ _ rfl rfl, order]
  simp only [Op.infer, Inference.transpose, Inference.twoInputs, Inference.integersAt, integers,
    ok_bind, Node.shape_ofType, Node.elementType_ofType, Shape.permute_toEngine, pure_eq_ok,
    Shape.channelsFirst]

/-- A node of host dims is brought into the engine's layout, where the dims have at most four entries
and a reshape to four has an element count. -/
theorem ends_toEngine {draft : Draft} {id : NodeId} {dims : List Int32} {shape : Shape}
    {elementType : ElementType} (typed : draft.graph.Typed id (shape, elementType))
    (shaped : Layout.shape dims = .ok shape) (given : dims ≠ []) (low : dims.length ≤ 4)
    (room : dims.length = 4 ∨ Shape.elementCount? shape ≠ none) :
    Ends Graph.Typed (toEngine dims id) draft (pure (engineShape shape, elementType)) := by
  obtain ⟨node, found, same⟩ := typed
  have there := Graph.contains_of_node? found
  have high : ¬4 < dims.length := Nat.not_lt.2 low
  have lengths : shape.length = dims.length := by simp [(shape_eq_ok.1 shaped).2]
  have padded : (Shape.padLeft 4 shape).length = 4 := Shape.length_padLeft (by omega)
  -- the transpose comes last, whether or not a reshape stands before it
  have finish : ∀ {later : Draft} {image : NodeId},
      later.graph.Typed image (Shape.padLeft 4 shape, elementType) →
      Ends Graph.Typed
        (do
          let order ← Emit.int32Constant (toEngineOrder.map Int64.toInt32)
          let result ← Emit.op .transpose [image, order.id]
          pure result.id) later (pure (engineShape shape, elementType)) := by
    intro later image typed
    apply Ends.after_int32Constant
    intro order first grown holds
    apply Ends.after_op (.of_second rfl (grown.typed typed) holds)
      (infer_transpose_toEngine _ padded elementType) rfl
    intro result second _ yields
    exact ends_pure yields.typed
  unfold toEngine
  apply Ends.after (run_get draft) (.refl _)
  simp only [there, if_true, given, high, if_false]
  by_cases short : dims.length < 4
  · have counted : Shape.elementCount? shape ≠ none := room.resolve_left (by omega)
    simp only [short, if_true]
    apply Ends.after_int32Constant
    intro pattern first grown holds
    have source : first.graph.Typed id (shape, elementType) := grown.typed ⟨node, found, same⟩
    apply Ends.after_op (.of_second rfl source holds)
      (infer_reshape_imageDims elementType shaped counted) rfl
    intro image second _ yields
    rw [pure_bind]
    exact finish yields.typed
  · have full : Shape.padLeft 4 shape = shape := Shape.padLeft_of_length (by omega)
    simp only [short, if_false]
    apply finish
    rw [full]
    exact ⟨node, found, same⟩

theorem ends_toHost {draft : Draft} {id : NodeId} {batch channels height width : Nat}
    {elementType : ElementType}
    (typed : draft.graph.Typed id ([batch, channels, height, width], elementType)) :
    Ends Graph.Typed (toHost id) draft (pure ([batch, height, width, channels], elementType)) := by
  obtain ⟨node, found, same⟩ := typed
  have shape : node.shape = [batch, channels, height, width] := congrArg Prod.fst same
  have type : node.elementType = elementType := congrArg Prod.snd same
  have rank : node.rank = 4 := by simp [Node.rank, shape]
  have order : toHostOrder.map Int64.toInt = [0, 2, 3, 1] := by decide
  have permuted : Shape.permute node.shape (toHostOrder.map Int64.toInt) =
      .ok [batch, height, width, channels] := by
    rw [shape, order, Shape.permute_toHost]
  unfold toHost
  apply Ends.after (run_get draft) (.refl _)
  simp only [found, rank, if_true, Emit.transpose, bind_assoc]
  apply Ends.after_int64Constant
  intro constant first grown holds
  have inferred := infer_transpose permuted
  rw [type] at inferred
  apply Ends.after_op (.of_second rfl (grown.typed (Graph.holds_of_node? found).typed) holds) inferred rfl
  intro result second _ yields
  exact ends_pure yields.typed

end Layout

/-! ## Registry -/

namespace Registry

variable (registry : Registry) (index : OperandIndex)

@[simp] theorem node?_bind_self (id : NodeId) : (registry.bind index id).node? index = some id :=
  OperandMap.get?_insert_self _ _ _

theorem node?_bind_of_ne (id : NodeId) {other : OperandIndex} (apart : other ≠ index) :
    (registry.bind index id).node? other = registry.node? other :=
  OperandMap.get?_insert_of_ne _ _ apart

@[simp] theorem node?_flag (other : OperandIndex) :
    (registry.flag index).node? other = registry.node? other :=
  rfl

@[simp] theorem isFlagged_bind (id : NodeId) (other : OperandIndex) :
    (registry.bind index id).isFlagged other = registry.isFlagged other :=
  rfl

theorem isFlagged_flag (other : OperandIndex) :
    (registry.flag index).isFlagged other = (decide (other = index) || registry.isFlagged other) := by
  simp [isFlagged, flag]

variable {registry index}

theorem node_eq_ok {id : NodeId} : registry.node index = .ok id ↔ registry.node? index = some id := by
  rw [node]
  cases registry.node? index <;> simp

end Registry

/-! ## Steps of a builder -/

namespace Builder

structure Moves (before after : Builder) (registry : Registry) : Prop where
  longer : before.graph.Extends after.graph
  registry_eq : after.registry = registry
  results_eq : after.results = before.results

structure Leaves (before after : Builder) (graph : Graph) (registry : Registry)
    (parameters : List NodeId) : Prop where
  graph_eq : after.graph = graph
  registry_eq : after.registry = registry
  parameters_eq : after.parameters = before.parameters ++ parameters
  results_eq : after.results = before.results

theorem Leaves.moves {before after : Builder} {graph : Graph} {registry : Registry}
    {parameters : List NodeId} (leaves : before.Leaves after graph registry parameters)
    (longer : before.graph.Extends graph) : before.Moves after registry := by
  refine ⟨?_, leaves.registry_eq, leaves.results_eq⟩
  rwa [leaves.graph_eq]

section Emitting

variable {α : Type} {step : Emit α} {builder : Builder}

theorem emitting_of_ok {value : α} {draft : Draft} (ran : step builder.draft = .ok value draft) :
    emitting step builder = .ok value { builder with draft } := by
  rw [emitting, ran]

theorem emitting_of_error {failure : Failure} {draft : Draft}
    (failed : step builder.draft = .error failure draft) :
    emitting step builder = .error failure { builder with draft } := by
  rw [emitting, failed]

theorem emitting_eq_ok {value : α} {after : Builder} :
    emitting step builder = .ok value after ↔
      ∃ draft, step builder.draft = .ok value draft ∧ after = { builder with draft } := by
  cases ran : step builder.draft with
  | error failure draft => simp [emitting_of_error ran]
  | ok value' draft =>
    rw [emitting_of_ok ran]
    constructor
    · intro same
      cases same
      exact ⟨draft, rfl, rfl⟩
    · rintro ⟨_, same, rfl⟩
      cases same
      rfl

end Emitting

/-! ## Graph inputs -/

theorem inputType_eq_ok {tensor : Tensor} {index : OperandIndex} {elementType : ElementType}
    {shape : Shape} :
    inputType tensor index = .ok (elementType, shape) ↔
      0 ≤ index ∧ tensor.dims ≠ [] ∧ tensor.rank ≤ 4 ∧
        Layout.elementType tensor.tensorType = .ok elementType ∧
          Layout.shape tensor.dims = .ok shape := by
  rw [inputType]
  by_cases negative : index < 0
  · have absurd : ¬0 ≤ index := Int32.not_le.2 negative
    simp [negative, absurd]
  · have valid : 0 ≤ index := Int32.not_lt.1 negative
    by_cases scalar : tensor.dims = []
    · simp [negative, scalar]
    · by_cases high : 4 < tensor.rank
      · have absurd : ¬tensor.rank ≤ 4 := Nat.not_le.2 high
        simp [negative, scalar, high, absurd]
      · have low : tensor.rank ≤ 4 := Nat.not_lt.1 high
        simp [negative, scalar, high, low, valid, bind_eq_ok]

def withParameter (builder : Builder) (elementType : ElementType) (shape : Shape) : Draft :=
  { builder.draft with graph := (builder.graph.addParameter elementType shape).2 }

theorem registerInput_of_ok {tensor : Tensor} {index : OperandIndex} {builder : Builder}
    {elementType : ElementType} {shape : Shape} {id : NodeId} {draft : Draft}
    (typed : inputType tensor index = .ok (elementType, shape))
    (converted : Layout.toEngine tensor.dims builder.graph.size
      (builder.withParameter elementType shape) = .ok id draft) :
    ∃ after, registerInput tensor index builder = .ok () after ∧
      builder.Leaves after draft.graph ((builder.registry.bind index id).flag index)
        [builder.graph.size] := by
  have added : emitting (Emit.parameter elementType shape) builder =
      .ok (builder.graph.addParameter elementType shape).1
        { builder with draft := builder.withParameter elementType shape } := rfl
  have turned : emitting
      (Layout.toEngine tensor.dims (builder.graph.addParameter elementType shape).1.id)
      { builder with draft := builder.withParameter elementType shape } =
        .ok id { builder with draft } := emitting_of_ok converted
  unfold registerInput
  rw [run_bind_of_ok (run_lift_ok typed builder)]
  dsimp only
  rw [run_bind_of_ok added, run_bind_of_ok turned]
  exact ⟨_, rfl, rfl, rfl, rfl, rfl⟩

theorem registerInput_leaves {tensor : Tensor} {index : OperandIndex} {builder after : Builder}
    (ran : registerInput tensor index builder = .ok () after) :
    ∃ elementType shape id draft, inputType tensor index = .ok (elementType, shape) ∧
      Layout.toEngine tensor.dims builder.graph.size (builder.withParameter elementType shape) =
        .ok id draft ∧
      builder.Leaves after draft.graph ((builder.registry.bind index id).flag index)
        [builder.graph.size] := by
  unfold registerInput at ran
  obtain ⟨⟨elementType, shape⟩, typed, rest⟩ := run_lift_bind_eq_ok.1 ran
  obtain ⟨_, _, added, rest⟩ := run_bind_eq_ok.1 rest
  cases added
  obtain ⟨id, _, turned, rest⟩ := run_bind_eq_ok.1 rest
  obtain ⟨draft, converted, rfl⟩ := emitting_eq_ok.1 turned
  cases rest
  exact ⟨elementType, shape, id, draft, typed, converted, rfl, rfl, rfl, rfl⟩

theorem registerInput_ok {tensor : Tensor} {index : OperandIndex} {elementType : ElementType}
    {shape : Shape} (typed : inputType tensor index = .ok (elementType, shape))
    (room : tensor.dims.length = 4 ∨ Shape.elementCount? shape ≠ none) (builder : Builder) :
    ∃ id after, registerInput tensor index builder = .ok () after ∧
      builder.Moves after ((builder.registry.bind index id).flag index) ∧
        after.graph.Typed id (Layout.engineShape shape, elementType) := by
  obtain ⟨_, given, low, _, shaped⟩ := inputType_eq_ok.1 typed
  have shown : (builder.withParameter elementType shape).graph.Typed builder.graph.size
      (shape, elementType) :=
    ⟨_, Graph.node?_push_self builder.graph .parameter [] (shape, elementType), rfl⟩
  obtain ⟨id, draft, converted, grown, result⟩ :=
    (Layout.ends_toEngine shown shaped given low room).run_ok
  obtain ⟨after, ran, leaves⟩ := registerInput_of_ok typed converted
  have longer : builder.graph.Extends draft.graph :=
    (Graph.extends_push builder.graph .parameter [] (shape, elementType)).trans grown
  refine ⟨id, after, ran, leaves.moves longer, ?_⟩
  rwa [leaves.graph_eq]

theorem inputType_of_registerInput {tensor : Tensor} {index : OperandIndex} {builder after : Builder}
    (ran : registerInput tensor index builder = .ok () after) :
    ∃ elementType shape, inputType tensor index = .ok (elementType, shape) := by
  obtain ⟨elementType, shape, _, _, typed, _⟩ := registerInput_leaves ran
  exact ⟨elementType, shape, typed⟩

/-! ## Weights -/

theorem constantContent_eq_ok {tensor : Tensor} {index : OperandIndex} {elementType : ElementType}
    {shape : Shape} {data : List UInt8} :
    constantContent tensor index = .ok (elementType, shape, data) ↔
      0 ≤ index ∧ tensor.dims ≠ [] ∧ tensor.data = some data ∧
        Layout.elementType tensor.tensorType = .ok elementType ∧
          Layout.shape tensor.dims = .ok shape ∧ tensor.byteSize? = some data.length := by
  rw [constantContent]
  by_cases negative : index < 0
  · have absurd : ¬0 ≤ index := Int32.not_le.2 negative
    simp [negative, absurd]
  have valid : 0 ≤ index := Int32.not_lt.1 negative
  by_cases scalar : tensor.dims = []
  · simp [negative, scalar]
  cases held : tensor.data with
  | none => simp [negative, scalar]
  | some payload =>
    cases counted : tensor.byteSize? with
    | none => simp [negative, scalar, bind_eq_ok]
    | some expected =>
      by_cases sized : payload.length = expected
      · simp only [negative, scalar, sized, valid, if_false, ne_eq, not_true_eq_false, not_false_eq_true,
          true_and, bind_eq_ok, pure_eq_ok, Except.ok.injEq, Prod.mk.injEq]
        constructor
        · rintro ⟨_, typed, _, shaped, rfl, rfl, rfl⟩
          exact ⟨rfl, typed, shaped, congrArg some sized.symm⟩
        · rintro ⟨same, typed, shaped, _⟩
          exact ⟨elementType, typed, shape, shaped, rfl, rfl, Option.some.inj same⟩
      · have other : payload = data → expected ≠ data.length := by
          rintro rfl same
          exact sized same.symm
        simp only [negative, scalar, sized, valid, if_false, if_true, ne_eq, not_false_eq_true, true_and,
          bind_eq_ok, throw_eq_error, error_bind, reduceCtorEq, and_false, exists_false, false_iff,
          Option.some.injEq, not_and]
        exact fun same _ _ => other same

theorem registerConstant_of_ok (builder : Builder) {tensor : Tensor} {index : OperandIndex}
    {elementType : ElementType} {shape : Shape} {data : List UInt8}
    (content : constantContent tensor index = .ok (elementType, shape, data))
    (sized : (Shape.elementCount? shape).bind elementType.byteLength? = some data.length) :
    ∃ after, registerConstant tensor index builder = .ok () after ∧
      builder.Leaves after (builder.graph.push (.constant data) [] (shape, elementType)).2
        (builder.registry.bind index builder.graph.size) [] := by
  unfold registerConstant
  rw [run_bind_of_ok (run_lift_ok content builder)]
  dsimp only
  rw [run_bind_of_ok (run_get builder), Graph.addConstant_eq_ok.2 ⟨sized, rfl⟩]
  exact ⟨_, rfl, rfl, rfl, (List.append_nil _).symm, rfl⟩

theorem registerConstant_leaves {tensor : Tensor} {index : OperandIndex} {builder after : Builder}
    (ran : registerConstant tensor index builder = .ok () after) :
    ∃ elementType shape data, constantContent tensor index = .ok (elementType, shape, data) ∧
      (Shape.elementCount? shape).bind elementType.byteLength? = some data.length ∧
      builder.Leaves after (builder.graph.push (.constant data) [] (shape, elementType)).2
        (builder.registry.bind index builder.graph.size) [] := by
  unfold registerConstant at ran
  obtain ⟨⟨elementType, shape, data⟩, content, rest⟩ := run_lift_bind_eq_ok.1 ran
  dsimp only at rest
  rw [run_bind_of_ok (run_get _)] at rest
  cases outcome : Graph.addConstant _ elementType shape data with
  | error error =>
    rw [outcome] at rest
    cases rest
  | ok added =>
    rw [outcome] at rest
    obtain ⟨sized, rfl⟩ := Graph.addConstant_eq_ok.1 outcome
    cases rest
    exact ⟨elementType, shape, data, content, sized, rfl, rfl, (List.append_nil _).symm, rfl⟩

/-- Weights come to stand as a constant that holds their bytes. -/
theorem registerConstant_eq_ok {tensor : Tensor} {index : OperandIndex} {builder after : Builder}
    (ran : registerConstant tensor index builder = .ok () after) :
    ∃ elementType shape data, tensor.data = some data ∧
      Layout.elementType tensor.tensorType = .ok elementType ∧
        Layout.shape tensor.dims = .ok shape ∧
          builder.Moves after (builder.registry.bind index builder.graph.size) ∧
            after.graph.node? builder.graph.size =
              some ⟨builder.graph.size, .constant data, [], shape, elementType⟩ := by
  obtain ⟨elementType, shape, data, content, _, leaves⟩ := registerConstant_leaves ran
  obtain ⟨_, _, held, typed, shaped, _⟩ := constantContent_eq_ok.1 content
  refine ⟨elementType, shape, data, held, typed, shaped, leaves.moves (Graph.extends_push _ _ _ _), ?_⟩
  rw [leaves.graph_eq]
  exact Graph.node?_push_self _ _ _ _

/-! ## Nodes -/

section Nodes

variable {id : Int32} {node : ScheduledNode} {tensors : TensorContext} {builder : Builder}
  {output : OperandIndex} {recipe : Recipe}

theorem target_eq_ok :
    target id node = .ok (output, recipe) ↔
      0 ≤ id ∧ node.outputs.head? = some output ∧ Recipe.ofOpCode node.op = .ok recipe := by
  rw [target]
  by_cases negative : id < 0
  · have absurd : ¬0 ≤ id := Int32.not_le.2 negative
    simp [negative, absurd]
  · have valid : 0 ≤ id := Int32.not_lt.1 negative
    cases first : node.outputs.head? with
    | none => simp [negative]
    | some output => simp [negative, valid, bind_eq_ok, and_comm]

theorem lowerNode_of_emit (builder : Builder) (known : target id node = .ok (output, recipe))
    {result : NodeId} {draft : Draft}
    (emitted : recipe.emit ⟨builder.registry, tensors⟩ node.inputs node.options builder.draft =
      .ok result draft) :
    ∃ after, lowerNode id node tensors builder = .ok () after ∧
      builder.Leaves after draft.graph (builder.registry.bind output result) [] := by
  unfold lowerNode
  rw [run_bind_of_ok (run_lift_ok known builder)]
  dsimp only
  rw [run_bind_of_ok (run_get builder), run_bind_of_ok (emitting_of_ok emitted)]
  exact ⟨_, rfl, rfl, rfl, (List.append_nil _).symm, rfl⟩

theorem lowerNode_leaves {after : Builder} (ran : lowerNode id node tensors builder = .ok () after) :
    ∃ output recipe result draft, target id node = .ok (output, recipe) ∧
      recipe.emit ⟨builder.registry, tensors⟩ node.inputs node.options builder.draft =
        .ok result draft ∧
      builder.Leaves after draft.graph (builder.registry.bind output result) [] := by
  unfold lowerNode at ran
  obtain ⟨⟨output, recipe⟩, known, rest⟩ := run_lift_bind_eq_ok.1 ran
  dsimp only at rest
  rw [run_bind_of_ok (run_get _)] at rest
  obtain ⟨result, _, stepped, rest⟩ := run_bind_eq_ok.1 rest
  obtain ⟨draft, emitted, rfl⟩ := emitting_eq_ok.1 stepped
  cases rest
  exact ⟨output, recipe, result, draft, known, emitted, rfl, rfl, (List.append_nil _).symm, rfl⟩

theorem lowerNode_of_ok (known : target id node = .ok (output, recipe)) {result : NodeId}
    {draft : Draft}
    (ran : recipe.emit ⟨builder.registry, tensors⟩ node.inputs node.options builder.draft =
      .ok result draft) (longer : builder.graph.Extends draft.graph) :
    ∃ after, lowerNode id node tensors builder = .ok () after ∧
      builder.Moves after (builder.registry.bind output result) ∧ after.graph = draft.graph := by
  obtain ⟨after, ran', leaves⟩ := lowerNode_of_emit builder known ran
  exact ⟨after, ran', leaves.moves longer, leaves.graph_eq⟩

theorem lowerNode_of_error (known : target id node = .ok (output, recipe)) {failure : Failure}
    {draft : Draft}
    (failed : recipe.emit ⟨builder.registry, tensors⟩ node.inputs node.options builder.draft =
      .error failure draft) :
    ∃ after, lowerNode id node tensors builder = .error failure after := by
  unfold lowerNode
  rw [run_bind_of_ok (run_lift_ok known builder)]
  dsimp only
  rw [run_bind_of_ok (run_get builder), run_bind_of_error (emitting_of_error failed)]
  exact ⟨_, rfl⟩

section Told

variable {typing : Typing OutputType} (known : target id node = .ok (output, recipe))
  (ends : Ends Graph.Typed (recipe.emit ⟨builder.registry, tensors⟩ node.inputs node.options)
    builder.draft typing)

include known ends

/-- A node of which a type is told is lowered: its first output comes to stand as a node of that type, and
the convolutions told are those that have been added. -/
theorem lowerNode_of_told {told : OutputType} {uses : List FilterUse}
    (outcome : typing.run [] = .ok (told, uses)) :
    ∃ after result, lowerNode id node tensors builder = .ok () after ∧
      after.graph.filterUsesFrom builder.graph.size = uses ∧
      after.registry.node? output = some result ∧ after.graph.Typed result told := by
  obtain ⟨result, draft, more, emitted, rfl, grows, typed⟩ := ends.of_ok outcome
  obtain ⟨after, ran, moves, graph⟩ := lowerNode_of_ok known emitted grows.longer
  refine ⟨after, result, ran, ?_, ?_, ?_⟩
  · rw [graph]
    exact grows.filterUses
  · rw [moves.registry_eq, Registry.node?_bind_self]
  · rwa [graph]

theorem lowerNode_of_refused {failure : Failure} (outcome : typing.run [] = .error failure) :
    ∃ after, lowerNode id node tensors builder = .error failure after := by
  obtain ⟨draft, failed⟩ := ends.of_error outcome
  exact lowerNode_of_error known failed

end Told

theorem lowerNode_eq_ok {after : Builder} (ran : lowerNode id node tensors builder = .ok () after) :
    ∃ output recipe result draft, target id node = .ok (output, recipe) ∧
      recipe.emit ⟨builder.registry, tensors⟩ node.inputs node.options builder.draft =
        .ok result draft ∧
      after.graph = draft.graph ∧ after.registry = builder.registry.bind output result ∧
        after.results = builder.results := by
  obtain ⟨output, recipe, result, draft, known, emitted, leaves⟩ := lowerNode_leaves ran
  exact ⟨output, recipe, result, draft, known, emitted, leaves.graph_eq, leaves.registry_eq,
    leaves.results_eq⟩

end Nodes

/-! ## Results -/

/-- What is given back for an operand: an image is turned first. -/
theorem resultNode_eq_ok {builder after : Builder} {index : OperandIndex} {result : NodeId} :
    resultNode index builder = .ok result after ↔
      ∃ id, builder.registry.node? index = some id ∧
        ((builder.graph.node? id).any (·.rank = 4) = true ∧
            (∃ draft, Layout.toHost id builder.draft = .ok result draft ∧
              after = { builder with draft }) ∨
          (builder.graph.node? id).any (·.rank = 4) = false ∧ result = id ∧ after = builder) := by
  unfold resultNode
  rw [run_bind_of_ok (run_get builder)]
  constructor
  · intro ran
    obtain ⟨id, known, ran⟩ := run_lift_bind_eq_ok.1 ran
    refine ⟨id, Registry.node_eq_ok.1 known, ?_⟩
    cases image : (builder.graph.node? id).any (·.rank = 4) with
    | true =>
      simp only [image, if_true] at ran
      exact .inl ⟨rfl, emitting_eq_ok.1 ran⟩
    | false =>
      simp only [image, Bool.false_eq_true, if_false] at ran
      cases ran
      exact .inr ⟨rfl, rfl, rfl⟩
  · rintro ⟨id, held, shape⟩
    rw [run_bind_of_ok (run_lift_ok (Registry.node_eq_ok.2 held) builder)]
    rcases shape with ⟨image, turned⟩ | ⟨plain, rfl, rfl⟩
    · simp only [image, if_true]
      exact emitting_eq_ok.2 turned
    · simp only [plain, Bool.false_eq_true, if_false]
      rfl

/-- An operand that stands as an engine image is given back as a host image. -/
theorem resultNode_ok {builder : Builder} {index : OperandIndex} {id : NodeId}
    {batch channels height width : Nat} {elementType : ElementType}
    (bound : builder.registry.node? index = some id)
    (typed : builder.graph.Typed id ([batch, channels, height, width], elementType)) :
    ∃ result after, resultNode index builder = .ok result after ∧
      builder.Moves after builder.registry ∧
        after.graph.Typed result ([batch, height, width, channels], elementType) := by
  obtain ⟨result, draft, ran, grown, shown⟩ := (Layout.ends_toHost typed).run_ok
  obtain ⟨node, found, same⟩ := typed
  have shape : node.shape = [batch, channels, height, width] := congrArg Prod.fst same
  have image : (builder.graph.node? id).any (·.rank = 4) = true := by
    simp [found, Node.rank, shape]
  exact ⟨result, { builder with draft }, resultNode_eq_ok.2 ⟨id, bound, .inl ⟨image, draft, ran, rfl⟩⟩,
    ⟨grown, rfl, rfl⟩, shown⟩

end Builder

end PartitionLowering
