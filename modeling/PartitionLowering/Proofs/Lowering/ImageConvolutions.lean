import PartitionLowering.Proofs.Engine.Groups
import PartitionLowering.Proofs.Lowering.Images

/-!
What convolutions come to on images that stand in the engine's layout, with filters in the engine's order:
`of_convolved_image`, `of_depthwise_image`, `of_spread_image`.  Their biases have one dim, the count of
output channels (`of_biasedTo_image`).
-/

set_option autoImplicit false

namespace PartitionLowering

/-! ## Biases -/

theorem broadcast?_bias (batch outputs height width : Nat) :
    Shape.broadcast? [batch, outputs, height, width] [1, outputs, 1, 1] =
      some [batch, outputs, height, width] := by
  have pairs : Shape.broadcast? [batch, outputs, height, width] [1, outputs, 1, 1] =
      Shape.joinAll? [(batch, 1), (outputs, outputs), (height, 1), (width, 1)] := rfl
  have same : Shape.joinExtents? outputs outputs = some outputs := if_pos rfl
  have none_left : Shape.joinAll? [] = some [] := rfl
  simp only [pairs, Shape.joinAll?_cons, Shape.joinExtents?_one_right, same, none_left,
    Option.bind_some, Option.map_some]

theorem of_biasedTo_image {batch outputs height width : Nat} {elementType : ElementType}
    {bias : Option Int32} {told : OutputType}
    (biased : Typing.BiasedTo ([batch, outputs, height, width], elementType) told bias)
    (fits : ∀ channels, bias = some channels → channels.toInt.toNat = outputs) :
    told = ([batch, outputs, height, width], elementType) := by
  cases bias with
  | none => exact biased
  | some channels =>
    have shape : biasShape 4 channels = [1, outputs, 1, 1] := by
      rw [← fits channels rfl]
      rfl
    have added : Op.add.infer [.ofType ([batch, outputs, height, width], elementType),
        .ofType ([1, outputs, 1, 1], .f32)] = .ok told := by
      rw [← shape]
      exact biased
    simp only [Op.infer, Inference.arithmetic, Inference.twoInputs, ok_bind, Node.elementType_ofType,
      Node.shape_ofType, Shape.broadcast, broadcast?_bias] at added
    by_cases float : elementType = .f32
    · simpa [float, eq_comm] using added
    · simp [float] at added

/-! ## Plain convolutions -/

section Convolutions

variable {batch height width channels inner outputs kernelHeight kernelWidth : Nat}
  {elementType : ElementType} {bias : Option Int32} {told : OutputType} {uses all : List FilterUse}

/-- Where a kernel slides, the engine counts its positions as the host does. -/
theorem windowExtents?_of_slides {data kernel strides dilations : Spatial} {padding : Padding}
    (slides : Window.Slides data kernel ⟨strides, dilations, padding.mode⟩) :
    Host.windowExtent? padding data.height kernel.height strides.height dilations.height =
        some (Window.placed data kernel ⟨strides, dilations, padding.mode⟩).height ∧
      Host.windowExtent? padding data.width kernel.width strides.width dilations.width =
        some (Window.placed data kernel ⟨strides, dilations, padding.mode⟩).width := by
  constructor
  · exact windowExtent?_of_forward (Window.forward_eq_ok.2
      ⟨⟨slides.moves.1, slides.apart.1, fun valid => (slides.fits valid).1⟩, rfl⟩ :
      Window.forward "" _ _ _ _ _ = .ok _)
  · exact windowExtent?_of_forward (Window.forward_eq_ok.2
      ⟨⟨slides.moves.2, slides.apart.2, fun valid => (slides.fits valid).2⟩, rfl⟩ :
      Window.forward "" _ _ _ _ _ = .ok _)

theorem of_convolved_image {options : Conv2dOptions}
    (success : (Typing.convolved ([batch, channels, height, width], elementType)
      [outputs, inner, kernelHeight, kernelWidth] bias options).run uses = .ok (told, all))
    (fits : ∀ channels, bias = some channels → channels.toInt.toNat = outputs) :
    Imaged (Host.convolve? options [batch, height, width, channels]
      [outputs, kernelHeight, kernelWidth, inner]) told := by
  obtain ⟨strides, dilations, padMode, produced, strided, dilated, padded, inferred, biased, _⟩ :=
    Typing.of_convolved success
  rw [(extents_eq_ok.1 strided).2, (extents_eq_ok.1 dilated).2, (padMode_eq_ok.1 padded).2] at inferred
  obtain ⟨⟨same, slides⟩, rfl⟩ := (Inference.convolution_eq_ok rfl rfl).1 inferred
  obtain ⟨high, wide⟩ := windowExtents?_of_slides slides
  refine ⟨batch, _, _, outputs, elementType, ?_, of_biasedTo_image biased fits⟩
  simp only [Host.convolve?, same, if_true, high, wide, Option.bind_eq_bind, Option.bind_some]

/-! ## Depthwise convolutions -/

theorem groupedShape_eq_ok {grouped : Shape} :
    Emission.groupedShape channels [outputs, inner, kernelHeight, kernelWidth] = .ok grouped ↔
      (0 < inner ∧ inner ∣ channels ∧ channels / inner ∣ outputs) ∧
        grouped = [channels / inner, outputs / (channels / inner), inner, kernelHeight,
          kernelWidth] := by
  have even : ¬(inner = 0 ∨ channels % inner ≠ 0) ↔ 0 < inner ∧ inner ∣ channels := by
    rw [Nat.dvd_iff_mod_eq_zero]
    omega
  have shared : ¬outputs % (channels / inner) ≠ 0 ↔ channels / inner ∣ outputs := by
    rw [Nat.dvd_iff_mod_eq_zero, not_not]
  simp only [Emission.groupedShape, List.getD_cons_zero, List.getD_cons_succ, guard_eq_ok, even, shared,
    List.drop_succ_cons, List.drop_zero, Except.ok.injEq, eq_comm (b := grouped), and_assoc]

theorem toNat_lt (dim : Int32) : dim.toInt.toNat < Nat.pow 2 31 := by
  have limit : Nat.pow 2 31 = 2147483648 := rfl
  have below := dim.toInt_lt
  rw [limit]
  omega

theorem map_toInt_ofNat {extents : Shape} (small : ∀ extent ∈ extents, extent < Nat.pow 2 31) :
    (extents.map Int64.ofNat).map Int64.toInt = extents.map Int.ofNat := by
  rw [List.map_map]
  apply List.map_congr_left
  intro extent member
  have below := small extent member
  exact Int64.toInt_ofNat_of_lt (Nat.lt_trans below (by decide))

theorem plain_ofNat (extents : Shape) : Shape.Plain (extents.map Int.ofNat) false := by
  intro entry member
  obtain ⟨extent, _, rfl⟩ := List.mem_map.1 member
  exact ⟨Int.natCast_nonneg extent, nofun⟩

theorem map_toNat_ofNat (extents : Shape) : (extents.map Int.ofNat).map Int.toNat = extents := by
  rw [List.map_map]
  exact List.map_id extents

/-- A reshape to extents that are given as they are. -/
theorem infer_reshape_eq_ok {source extents : Shape} {elementType : ElementType} {told : OutputType}
    (small : ∀ extent ∈ extents, extent < Nat.pow 2 31) :
    (Op.reshape false).infer
        [.ofType (source, elementType), .ofInt64s (extents.map Int64.ofNat)] = .ok told ↔
      Shape.reshape source (extents.map Int.ofNat) false = .ok extents ∧
        told = (extents, elementType) := by
  have integers : (Node.ofInt64s (extents.map Int64.ofNat)).integers? = some (extents.map Int.ofNat) := by
    rw [Node.integers?_int64 _ _ rfl rfl, map_toInt_ofNat small]
  simp only [Op.infer, Inference.reshape, Inference.twoInputs, Inference.integersAt, integers, ok_bind,
    Node.shape_ofType, Node.elementType_ofType, bind_eq_ok, pure_eq_ok, Except.ok.injEq]
  constructor
  · rintro ⟨shape, reshaped, rfl⟩
    have known := Shape.reshape_plain_eq_ok (plain_ofNat extents) reshaped
    rw [map_toNat_ofNat] at known
    rw [known] at reshaped ⊢
    exact ⟨reshaped, rfl⟩
  · rintro ⟨reshaped, rfl⟩
    exact ⟨extents, reshaped, rfl⟩

theorem grouped_lt {bound : Nat} (few : channels < bound)
    (small : ∀ extent ∈ [outputs, inner, kernelHeight, kernelWidth], extent < bound) :
    ∀ extent ∈ [channels / inner, outputs / (channels / inner), inner, kernelHeight, kernelWidth],
      extent < bound := by
  simp only [List.forall_mem_cons] at small ⊢
  obtain ⟨first, rest⟩ := small
  exact ⟨Nat.lt_of_le_of_lt (Nat.div_le_self _ _) few, Nat.lt_of_le_of_lt (Nat.div_le_self _ _) first,
    rest⟩

theorem of_depthwise_image {known : Except Failure (List Int32)} {options : DepthwiseConv2dOptions}
    (success : (Typing.convolvedDepthwise ([batch, channels, height, width], elementType) known
      [outputs, inner, kernelHeight, kernelWidth] bias options).run uses = .ok (told, all))
    (small : ∀ extent ∈ [outputs, inner, kernelHeight, kernelWidth], extent < Nat.pow 2 31)
    (fits : ∀ channels, bias = some channels → channels.toInt.toNat = outputs) :
    Imaged (Host.convolveDepthwise? options [batch, height, width, channels]
      [inner, kernelHeight, kernelWidth, outputs]) told := by
  obtain ⟨dims, counted, grouped, split, strides, dilations, padMode, produced, _, shown, grouping,
    reshaped, strided, dilated, padded, inferred, biased, _⟩ := Typing.of_convolvedDepthwise success
  obtain ⟨⟨_, _, even⟩, rfl⟩ := groupedShape_eq_ok.1 grouping
  have bounded : counted < Nat.pow 2 31 := by
    rw [Emission.inputChannels] at shown
    cases here : dims[3]? with
    | none => simp [here] at shown
    | some dim =>
      simp only [here] at shown
      rw [(positive_eq_ok.1 shown).2]
      exact toNat_lt dim
  have filter := ((infer_reshape_eq_ok (grouped_lt bounded small)).1 reshaped).2
  rw [(extents_eq_ok.1 strided).2, (extents_eq_ok.1 dilated).2, (padMode_eq_ok.1 padded).2, filter]
    at inferred
  obtain ⟨⟨_, slides⟩, rfl⟩ := (Inference.groupConvolution_eq_ok rfl rfl).1 inferred
  obtain ⟨high, wide⟩ := windowExtents?_of_slides slides
  rw [Nat.mul_div_cancel' even] at biased
  refine ⟨batch, _, _, outputs, elementType, ?_, of_biasedTo_image biased fits⟩
  simp only [Host.convolveDepthwise?, high, wide, Option.bind_eq_bind, Option.bind_some, Option.pure_def]

/-! ## Transposed convolutions -/

theorem of_spread_image {known : Except Failure (List Int32)} {options : TransposeConvOptions}
    (success : (Typing.spreadTo known ([batch, channels, height, width], elementType)
      [inner, outputs, kernelHeight, kernelWidth] bias options).run uses = .ok (told, all))
    (fits : ∀ channels, bias = some channels → channels.toInt.toNat = outputs) :
    ∃ dims, known = .ok dims ∧ Imaged (Host.convolveTransposed? dims [batch, height, width, channels]
      [outputs, kernelHeight, kernelWidth, inner]) told := by
  obtain ⟨first, rows, columns, rest, produced, more, same, spread, biased, _⟩ :=
    Typing.of_spreadTo success
  refine ⟨_, same, ?_⟩
  obtain ⟨strides, _, inferred, _⟩ := Typing.of_spread spread
  have sizes : (Node.ofInt32s [rows, columns]).integers? = some [rows.toInt, columns.toInt] := by
    rw [Node.integers?_int32 _ _ rfl rfl]
    rfl
  simp only [Op.infer, Inference.transposedConvolution, Inference.transposedInputs, Node.shape_ofType,
    Inference.rankFour, Inference.integersAt, sizes, ok_bind, Inference.outputExtents] at inferred
  by_cases matched : channels = inner
  · by_cases positive : 0 < rows.toInt ∧ 0 < columns.toInt
    · simp only [matched, positive, ne_eq, not_true_eq_false, if_false, and_self, if_true, ok_bind,
        pure_eq_ok] at inferred
      cases inferred
      refine ⟨batch, Host.count rows, Host.count columns, outputs, elementType, ?_,
        of_biasedTo_image biased fits⟩
      simp [Host.convolveTransposed?, matched]
    · simp [matched, positive] at inferred
  · simp [matched] at inferred

end Convolutions

end PartitionLowering
