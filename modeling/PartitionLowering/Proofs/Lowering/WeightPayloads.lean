import PartitionLowering.Proofs.Engine.IntegerConstants
import PartitionLowering.Proofs.Lowering.GraphInputs

/-!
Payloads of weights, as the host and the engine see them.  Both count the elements of a tensor, the bytes that
they take and the integers in them, each in its own terms; they agree on every tensor that has a shape and a
type in the engine, also where a count is too large for a size (`Tensor.byteSize?_eq`).  So a registration
fails only by its own checks, never by those of the graph (`Builder.exists_registerConstant_iff`).  Main
statement: `Builder.payloads_agree`.
-/

set_option autoImplicit false

namespace PartitionLowering

/-! ## Sizes -/

/-- What a tensor has to be as the weights of an operand. -/
structure Tensor.Storable (tensor : Tensor) (index : OperandIndex) : Prop where
  valid : 0 ≤ index
  given : tensor.dims ≠ []
  positive : ∀ dim ∈ tensor.dims, 0 < dim
  mapped : Layout.elementType? tensor.tensorType ≠ none
  filled : ∃ payload, tensor.data = some payload ∧ tensor.byteSize? = some payload.length

theorem bitWidth?_of_elementType {type : TensorType} {elementType : ElementType}
    (typed : Layout.elementType type = .ok elementType) : type.bitWidth? = some elementType.bitWidth := by
  cases type <;> cases typed <;> rfl

/-- The size of a payload for the host is the one for the engine, and there is none for either where it would
be too large. -/
theorem Tensor.byteSize?_eq {tensor : Tensor} {elementType : ElementType}
    (typed : Layout.elementType tensor.tensorType = .ok elementType) :
    tensor.byteSize? = (Shape.elementCount? tensor.hostShape).bind elementType.byteLength? := by
  rw [Tensor.byteSize?, bitWidth?_of_elementType typed]
  rfl

/-- The bits of all elements are rounded up to bytes where there are fewer than two to the power of 64. -/
theorem Shape.byteLength?_of_positive {shape : Shape} (positive : shape.Positive) (type : ElementType) :
    (elementCount? shape).bind type.byteLength? =
      if shape.prod * type.bitWidth < 2 ^ 64 then some ((shape.prod * type.bitWidth + 7) / 8)
      else none := by
  have bound : Size.bound = 2 ^ 64 := by decide
  have some_bits : 0 < type.bitWidth := by cases type <;> decide
  have bits : shape.prod ≤ shape.prod * type.bitWidth := Nat.le_mul_of_pos_right _ some_bits
  have rounded : ∀ bits, Size.bytesOfBits bits = (bits + 7) / 8 := by
    intro bits
    rw [Size.bytesOfBits]
    split <;> omega
  rw [elementCount?_of_positive positive, bound]
  by_cases small : shape.prod * type.bitWidth < 2 ^ 64
  · have counted : shape.prod < 2 ^ 64 := Nat.lt_of_le_of_lt bits small
    simp only [counted, small, if_true, Option.bind_some, ElementType.byteLength?, Size.packed?,
      Size.mul?, bound, Option.map_some, rounded]
  · rw [if_neg small]
    split
    · simp only [Option.bind_some, ElementType.byteLength?, Size.packed?, Size.mul?, bound, small,
        if_false, Option.map_none]
    · rfl

/-! ## Registration -/

namespace Builder

variable {tensor : Tensor} {index : OperandIndex}

/-- Content that passes the checks of a registration passes those of any graph. -/
theorem sized_of_constantContent {elementType : ElementType} {shape : Shape} {payload : List UInt8}
    (content : constantContent tensor index = .ok (elementType, shape, payload)) :
    (Shape.elementCount? shape).bind elementType.byteLength? = some payload.length := by
  obtain ⟨_, _, _, typed, shaped, sized⟩ := constantContent_eq_ok.1 content
  rw [← sized, tensor.byteSize?_eq typed, (Layout.shape_eq_ok.1 shaped).2]
  rfl

theorem exists_constantContent_iff :
    (∃ content, constantContent tensor index = .ok content) ↔ tensor.Storable index := by
  constructor
  · rintro ⟨⟨elementType, shape, payload⟩, content⟩
    obtain ⟨valid, given, held, typed, shaped, sized⟩ := constantContent_eq_ok.1 content
    have mapped := Layout.elementType_eq_ok.1 typed
    exact ⟨valid, given, (Layout.shape_eq_ok.1 shaped).1, by simp [mapped], payload, held, sized⟩
  · intro storable
    obtain ⟨elementType, mapped⟩ := Option.ne_none_iff_exists'.1 storable.mapped
    obtain ⟨payload, held, sized⟩ := storable.filled
    exact ⟨(elementType, tensor.hostShape, payload), constantContent_eq_ok.2 ⟨storable.valid,
      storable.given, held, Layout.elementType_eq_ok.2 mapped,
      Layout.shape_eq_ok.2 ⟨storable.positive, rfl⟩, sized⟩⟩

theorem exists_registerConstant_iff (builder : Builder) :
    (∃ after, registerConstant tensor index builder = .ok () after) ↔ tensor.Storable index := by
  rw [← exists_constantContent_iff]
  constructor
  · rintro ⟨after, ran⟩
    obtain ⟨_, _, _, content, _⟩ := registerConstant_leaves ran
    exact ⟨_, content⟩
  · rintro ⟨⟨elementType, shape, payload⟩, content⟩
    obtain ⟨after, ran, _⟩ := registerConstant_of_ok builder content (sized_of_constantContent content)
    exact ⟨after, ran⟩

end Builder

/-! ## Integers -/

/-- A payload of 32-bit integers is read by the engine as by the host. -/
theorem Tensor.exists_int32Values {tensor : Tensor} {payload : List UInt8} {id : NodeId} {shape : Shape}
    (typed : tensor.tensorType = .int32) (held : tensor.data = some payload) :
    ∃ values, tensor.int32Values? = some values ∧ values.length = payload.length / 4 ∧
      (Node.mk id (.constant payload) [] shape .i32).integers? = some (values.map Int32.toInt) := by
  refine ⟨(LittleEndian.groups 4 payload).map LittleEndian.int32, ?_, ?_, ?_⟩
  · rw [int32Values?, if_pos typed, held, Option.map_some]
  · rw [List.length_map, LittleEndian.length_groups]
  · refine congrArg some ?_
    rw [List.map_map]
    refine List.map_congr_left fun group member => ?_
    exact (LittleEndian.toInt_int32 (LittleEndian.length_of_mem_groups member)).symm

theorem Tensor.int32Values?_constantInt32 (dims values : List Int32) :
    (constantInt32 dims values).int32Values? = some values := by
  have typed : (constantInt32 dims values).tensorType = .int32 := rfl
  rw [int32Values?, if_pos typed]
  exact congrArg some (LittleEndian.map_int32_groups values)

namespace Builder

/-- The constant of a registered tensor of 32-bit integers shows what the tensor shows, one integer for each
element. -/
theorem integers_of_registerConstant {tensor : Tensor} {index : OperandIndex} {builder after : Builder}
    (ran : registerConstant tensor index builder = .ok () after) (typed : tensor.tensorType = .int32) :
    ∃ id values, after.registry.node? index = some id ∧ tensor.int32Values? = some values ∧
      after.graph.integers? id = some (values.map Int32.toInt) ∧
      values.length = tensor.hostShape.prod := by
  obtain ⟨elementType, shape, payload, content, sized, leaves⟩ := registerConstant_leaves ran
  obtain ⟨_, _, held, engineType, shaped, _⟩ := constantContent_eq_ok.1 content
  obtain ⟨_, rfl⟩ := Layout.shape_eq_ok.1 shaped
  rw [typed] at engineType
  cases engineType
  have bits : ElementType.i32.bitWidth = 8 * 4 := rfl
  obtain ⟨count, counted, bytes⟩ := Graph.length_of_sized bits sized
  have found : after.graph.node? builder.graph.size =
      some ⟨builder.graph.size, .constant payload, [], tensor.hostShape, .i32⟩ := by
    rw [leaves.graph_eq]
    exact Graph.node?_push_self _ _ _ _
  obtain ⟨values, read, length, integers⟩ := tensor.exists_int32Values typed held
  refine ⟨builder.graph.size, values, ?_, read, Option.bind_eq_some_iff.2 ⟨_, found, integers⟩, ?_⟩
  · rw [leaves.registry_eq, Registry.node?_bind_self]
  · rw [length, bytes, Nat.mul_div_cancel _ (by decide)]
    exact (Shape.prod_of_elementCount? counted).symm

/-- The host and the engine agree on payloads.  Weights are registered exactly where they are storable, whatever
the builder; the size that the registration checks is the one that the graph checks again, so that the graph
takes all that is left; and both read the same integers, which are those that a payload was made of. -/
theorem payloads_agree (builder : Builder) (tensor : Tensor) (index : OperandIndex) :
    ((∃ after, registerConstant tensor index builder = .ok () after) ↔ tensor.Storable index) ∧
    (∀ elementType shape, Layout.elementType tensor.tensorType = .ok elementType →
      Layout.shape tensor.dims = .ok shape →
        tensor.byteSize? = (Shape.elementCount? shape).bind elementType.byteLength? ∧
        tensor.byteSize? =
          if shape.prod * elementType.bitWidth < 2 ^ 64 then
            some ((shape.prod * elementType.bitWidth + 7) / 8)
          else none) ∧
    (∀ elementType shape payload, constantContent tensor index = .ok (elementType, shape, payload) →
      ∀ graph : Graph, ∃ added, graph.addConstant elementType shape payload = .ok added) ∧
    (∀ after, registerConstant tensor index builder = .ok () after → tensor.tensorType = .int32 →
      ∃ id values, after.registry.node? index = some id ∧ tensor.int32Values? = some values ∧
        after.graph.integers? id = some (values.map Int32.toInt) ∧
        values.length = tensor.hostShape.prod) ∧
    (∀ dims values, (Tensor.constantInt32 dims values).int32Values? = some values) ∧
    (∀ (graph : Graph) (values : List Int32),
      (graph.addInt32Constant values).2.integers? (graph.addInt32Constant values).1.id =
        some (values.map Int32.toInt)) ∧
    ∀ (graph : Graph) (values : List Int64),
      (graph.addInt64Constant values).2.integers? (graph.addInt64Constant values).1.id =
        some (values.map Int64.toInt) := by
  refine ⟨exists_registerConstant_iff builder, ?_, ?_, fun after => integers_of_registerConstant,
    Tensor.int32Values?_constantInt32, Graph.integers?_addInt32Constant,
    Graph.integers?_addInt64Constant⟩
  · intro elementType shape typed shaped
    have positive : shape.Positive := positive_of_layout shaped
    have same := tensor.byteSize?_eq typed
    rw [← Shape.byteLength?_of_positive positive]
    rw [Tensor.hostShape, ← (Layout.shape_eq_ok.1 shaped).2] at same
    exact ⟨same, same⟩
  · intro elementType shape payload content graph
    exact ⟨_, Graph.addConstant_eq_ok.2 ⟨sized_of_constantContent content, rfl⟩⟩

/-- A square of integers, one of them the least and one the greatest, as weights beside a graph input. -/
theorem payloads_agree_square :
    ∃ after id, registerConstant (.constantInt32 [2, 2] [1, -1, 2147483647, -2147483648]) 4
        (afterCalls [.registerInput { tensorType := .float32, dims := [2, 3, 4] } 3]) =
          .ok () after ∧
      after.registry.node? 4 = some id ∧
      after.graph.integers? id = some [1, -1, 2147483647, -2147483648] ∧
      (Tensor.constantInt32 [2, 2] [1, -1, 2147483647, -2147483648]).byteSize? =
        (Shape.elementCount? [2, 2]).bind ElementType.i32.byteLength? := by
  obtain ⟨stored, sizes, _, reads, holds, _⟩ := payloads_agree
    (afterCalls [.registerInput { tensorType := .float32, dims := [2, 3, 4] } 3])
    (.constantInt32 [2, 2] [1, -1, 2147483647, -2147483648]) 4
  have storable : Tensor.Storable (.constantInt32 [2, 2] [1, -1, 2147483647, -2147483648]) 4 :=
    ⟨by decide, by decide, by simp [Tensor.constantInt32], by decide, _, rfl, by decide⟩
  obtain ⟨after, ran⟩ := stored.2 storable
  obtain ⟨id, values, bound, read, integers, _⟩ := reads after ran rfl
  rw [holds, Option.some_inj] at read
  subst read
  exact ⟨after, id, ran, bound, integers, (sizes .i32 [2, 2] rfl rfl).1⟩

end Builder

end PartitionLowering
