import PartitionLowering.Proofs.Host.Reference
import PartitionLowering.Proofs.Lowering.Parameters

/-!
Which tensors can be graph inputs.  Registration checks a tensor in the builder, in the change of layout
and in the two rules of shape inference behind it; `Tensor.Registrable` is what all of these come to.
Main statement: `registerInput_exactly`, by which a registered input stands in the engine's layout and is
given back in the host's.
-/

set_option autoImplicit false

namespace PartitionLowering

/-- What a tensor has to be as the graph input of an operand.  Its elements are counted only where its dims
are fewer than those of an image. -/
structure Tensor.Registrable (tensor : Tensor) (index : OperandIndex) : Prop where
  valid : 0 ≤ index
  rank : 1 ≤ tensor.rank ∧ tensor.rank ≤ 4
  mapped : Layout.elementType? tensor.tensorType ≠ none
  positive : ∀ dim ∈ tensor.dims, 0 < dim
  room : tensor.rank = 4 ∨ tensor.hostShape.prod < 2 ^ 64

theorem Layout.elementType_eq_ok {type : TensorType} {elementType : ElementType} :
    Layout.elementType type = .ok elementType ↔ Layout.elementType? type = some elementType := by
  rw [Layout.elementType]
  cases Layout.elementType? type <;> simp

theorem Tensor.rank_pos {tensor : Tensor} : 1 ≤ tensor.rank ↔ tensor.dims ≠ [] :=
  List.length_pos_iff

namespace Builder

variable {tensor : Tensor} {index : OperandIndex} {elementType : ElementType} {shape : Shape}

/-- Where the parameter has its shape, there is room for it just below two to the power of 64. -/
theorem counted_iff (typed : inputType tensor index = .ok (elementType, shape)) :
    Shape.elementCount? shape ≠ none ↔ tensor.hostShape.prod < 2 ^ 64 := by
  obtain ⟨_, _, _, _, shaped⟩ := inputType_eq_ok.1 typed
  have positive : shape.Positive := positive_of_layout shaped
  have bound : Size.bound = 2 ^ 64 := by decide
  rw [Shape.elementCount?, Size.product?_ne_none positive, bound, (Layout.shape_eq_ok.1 shaped).2,
    Tensor.hostShape]

theorem inputType_of_registrable (registrable : tensor.Registrable index) :
    ∃ elementType, inputType tensor index = .ok (elementType, tensor.hostShape) := by
  obtain ⟨elementType, mapped⟩ := Option.ne_none_iff_exists'.1 registrable.mapped
  exact ⟨elementType, inputType_eq_ok.2 ⟨registrable.valid, Tensor.rank_pos.1 registrable.rank.1,
    registrable.rank.2, Layout.elementType_eq_ok.2 mapped,
    Layout.shape_eq_ok.2 ⟨registrable.positive, rfl⟩⟩⟩

/-- A graph input is registered just where it has a type and there is room for it. -/
theorem registrable_iff (typed : inputType tensor index = .ok (elementType, shape)) :
    tensor.Registrable index ↔ (Call.registerInput tensor index).strands = false := by
  have room : (Call.registerInput tensor index).strands = false ↔
      tensor.dims.length = 4 ∨ Shape.elementCount? shape ≠ none := by
    rw [← not_iff_not, ← strands_registerInput typed, Bool.not_eq_false]
  rw [room, counted_iff typed]
  obtain ⟨valid, given, low, mapped, shaped⟩ := inputType_eq_ok.1 typed
  constructor
  · exact Tensor.Registrable.room
  · intro room
    refine ⟨valid, ⟨Tensor.rank_pos.2 given, low⟩, ?_, (Layout.shape_eq_ok.1 shaped).1, room⟩
    rw [Layout.elementType_eq_ok.1 mapped]
    exact Option.some_ne_none elementType

theorem exists_registerInput_iff (builder : Builder) :
    (∃ after, registerInput tensor index builder = .ok () after) ↔ tensor.Registrable index := by
  constructor
  · rintro ⟨after, ran⟩
    obtain ⟨elementType, shape, id, draft, typed, converted, _⟩ := registerInput_leaves ran
    rw [registrable_iff typed, ← Bool.not_eq_true, ← toEngine_error_iff builder typed]
    rintro ⟨failure, draft', failed⟩
    cases failed.symm.trans converted
  · intro registrable
    obtain ⟨elementType, typed⟩ := inputType_of_registrable registrable
    have room := registrable.room.imp_right (counted_iff typed).2
    obtain ⟨_, after, ran, _⟩ := registerInput_ok typed room builder
    exact ⟨after, ran⟩

/-- The results that are asked for one operand that stands as an engine image. -/
theorem finalize_image {builder : Builder} {id : NodeId} {batch channels height width : Nat}
    (bound : builder.registry.node? index = some id)
    (typed : builder.graph.Typed id ([batch, channels, height, width], elementType)) :
    ∃ result last, finalize [index] builder = .ok () last ∧
      last.results = builder.results ++ [result] ∧
      last.graph.Typed result ([batch, height, width, channels], elementType) := by
  obtain ⟨result, after, ran, moves, shown⟩ := resultNode_ok bound typed
  have all : resultNodes [index] builder = .ok [result] after := by
    rw [resultNodes, run_bind_of_ok ran]
    rfl
  refine ⟨result, { after with results := after.results ++ [result] }, ?_, ?_, shown⟩
  · rw [finalize, if_neg (List.cons_ne_nil index [])]
    exact (run_bind_of_ok all _).trans rfl
  · rw [moves.results_eq]

/-- A tensor is registered as a graph input exactly where it is registrable.  Its operand then stands as a
node of the engine's layout, and is given back in the host's with ones in front. -/
theorem registerInput_exactly (builder : Builder) (tensor : Tensor) (index : OperandIndex) :
    ((∃ after, registerInput tensor index builder = .ok () after) ↔ tensor.Registrable index) ∧
    ∀ after, registerInput tensor index builder = .ok () after →
      ∃ elementType batch height width channels id,
        Layout.elementType? tensor.tensorType = some elementType ∧
        Shape.padLeft 4 tensor.hostShape = [batch, height, width, channels] ∧
        after.registry.node? index = some id ∧
        after.graph.Typed id ([batch, channels, height, width], elementType) ∧
        ∃ result last, finalize [index] after = .ok () last ∧
          last.results = after.results ++ [result] ∧
          last.graph.Typed result ([batch, height, width, channels], elementType) := by
  refine ⟨exists_registerInput_iff builder, ?_⟩
  intro after ran
  have registrable := (exists_registerInput_iff builder).1 ⟨after, ran⟩
  obtain ⟨elementType, typed⟩ := inputType_of_registrable registrable
  have room := registrable.room.imp_right (counted_iff typed).2
  obtain ⟨id, _, ran', moves, shown⟩ := registerInput_ok typed room builder
  cases ran.symm.trans ran'
  have short : tensor.hostShape.length ≤ 4 := by
    rw [Tensor.hostShape, List.length_map]
    exact registrable.rank.2
  obtain ⟨batch, height, width, channels, padded⟩ := Shape.exists_image (Shape.length_padLeft short)
  rw [Layout.engineShape, padded] at shown
  have bound : after.registry.node? index = some id := by
    rw [moves.registry_eq, Registry.node?_flag, Registry.node?_bind_self]
  obtain ⟨_, _, _, mapped, _⟩ := inputType_eq_ok.1 typed
  exact ⟨elementType, batch, height, width, channels, id, Layout.elementType_eq_ok.1 mapped, padded,
    bound, shown, finalize_image bound shown⟩

/-- A tensor of two dims as a third input beside a graph that has nodes already. -/
theorem registerInput_exactly_matrix :
    ∃ after id result last,
      registerInput { tensorType := .int16, dims := [5, 7] } 3
        (afterCalls [.registerInput { tensorType := .float32, dims := [2, 3, 4] } 3]) =
          .ok () after ∧
      after.registry.node? 3 = some id ∧ after.graph.Typed id ([1, 7, 1, 5], .i16) ∧
      finalize [3] after = .ok () last ∧ last.results = after.results ++ [result] ∧
      last.graph.Typed result ([1, 1, 5, 7], .i16) := by
  obtain ⟨exactly, tells⟩ := registerInput_exactly
    (afterCalls [.registerInput { tensorType := .float32, dims := [2, 3, 4] } 3])
    { tensorType := .int16, dims := [5, 7] } 3
  have registrable : Tensor.Registrable { tensorType := .int16, dims := [5, 7] } 3 :=
    ⟨by decide, by decide, by decide, by simp, .inr (by decide)⟩
  obtain ⟨after, ran⟩ := exactly.2 registrable
  obtain ⟨_, _, _, _, _, id, mapped, padded, bound, typed, result, last, finalized, appended, shown⟩ :=
    tells after ran
  cases mapped
  cases padded
  exact ⟨after, id, result, last, ran, bound, typed, finalized, appended, shown⟩

end Builder

end PartitionLowering
