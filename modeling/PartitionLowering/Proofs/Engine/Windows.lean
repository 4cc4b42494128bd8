import Mathlib.Algebra.Order.Floor.Div
import PartitionLowering.Proofs.Engine.Arena
import PartitionLowering.Proofs.Engine.Inference

/-!
Windows and transposed windows.  A convolution slides its kernel over its data exactly where
`Window.Slides` holds, and then it has a known count of positions on each axis
(`Window.convolution_eq_ok`).

The extent that a count of window positions covers has room for just as many
(`Window.forward_of_backward`), and the filter that takes data of its first axis to data of its second
takes them back.  So a convolution with the attributes and the filter of a transposed one gives the shape
that the transposed one was made from (`Graph.convolution_undoes_transposed`).
-/

set_option autoImplicit false

namespace PartitionLowering

namespace Window

variable {op op' : String} {padMode : PadMode}

/-- The count of positions that a window has along an axis. -/
def positions (input kernel stride dilation : Nat) : PadMode → Nat
  | .sameUpper => input ⌈/⌉ stride
  | .valid => (input - reach kernel dilation) / stride + 1

theorem forward_eq_ok {input kernel stride dilation extent : Nat} :
    forward op input kernel stride dilation padMode = .ok extent ↔
      (0 < stride ∧ 0 < dilation ∧ (padMode = .valid → reach kernel dilation ≤ input)) ∧
        extent = positions input kernel stride dilation padMode := by
  have moves : ¬(stride = 0 ∨ dilation = 0) ↔ 0 < stride ∧ 0 < dilation := by omega
  rw [forward.eq_def, guard_eq_ok, moves]
  cases padMode with
  | sameUpper =>
    simp only [positions, Nat.ceilDiv_eq_add_pred_div, Except.ok.injEq, eq_comm (a := extent)]
    simp [and_assoc]
  | valid =>
    simp only [positions, guard_eq_ok, not_lt, Except.ok.injEq, eq_comm (a := extent)]
    simp [and_assoc]

/-- What a kernel needs to slide over data: it moves, its taps stand apart, and without padding it fits. -/
structure Slides (data kernel : Spatial) (attributes : ConvAttributes) : Prop where
  moves : 0 < attributes.strides.height ∧ 0 < attributes.strides.width
  apart : 0 < attributes.dilations.height ∧ 0 < attributes.dilations.width
  fits : attributes.padMode = .valid →
    reach kernel.height attributes.dilations.height ≤ data.height ∧
      reach kernel.width attributes.dilations.width ≤ data.width

def placed (data kernel : Spatial) (attributes : ConvAttributes) : Spatial where
  height := positions data.height kernel.height attributes.strides.height
    attributes.dilations.height attributes.padMode
  width := positions data.width kernel.width attributes.strides.width attributes.dilations.width
    attributes.padMode

def outputShape (batch channels : Nat) (data kernel : Spatial) (attributes : ConvAttributes) : Shape :=
  [batch, channels, (placed data kernel attributes).height, (placed data kernel attributes).width]

theorem convolution_eq_ok {data kernel spatial : Spatial} {attributes : ConvAttributes} :
    convolution op data kernel attributes = .ok spatial ↔
      Slides data kernel attributes ∧ spatial = placed data kernel attributes := by
  simp only [convolution, bind_eq_ok, forward_eq_ok, pure_eq_ok, Except.ok.injEq]
  constructor
  · rintro ⟨_, ⟨⟨moves, apart, fits⟩, rfl⟩, _, ⟨⟨moves', apart', fits'⟩, rfl⟩, rfl⟩
    exact ⟨⟨⟨moves, moves'⟩, ⟨apart, apart'⟩, fun valid => ⟨fits valid, fits' valid⟩⟩, rfl⟩
  · rintro ⟨slides, rfl⟩
    exact ⟨_, ⟨⟨slides.moves.1, slides.apart.1, fun valid => (slides.fits valid).1⟩, rfl⟩, _,
      ⟨⟨slides.moves.2, slides.apart.2, fun valid => (slides.fits valid).2⟩, rfl⟩, rfl⟩

/-- The extent that some window positions cover has as many positions. -/
theorem forward_of_backward {input kernel stride dilation extent : Nat}
    (covers : backward op input kernel stride dilation padMode = .ok extent) :
    forward op' extent kernel stride dilation padMode = .ok input := by
  rw [backward.eq_def, guard_eq_ok, guard_eq_ok] at covers
  obtain ⟨moves, given, covers⟩ := covers
  have stride_pos : 0 < stride := by omega
  rw [forward.eq_def, if_neg moves]
  cases padMode with
  | sameUpper =>
    cases covers
    have steps : input * stride + stride - 1 = stride - 1 + stride * input := by
      rw [Nat.mul_comm]
      omega
    have short : stride - 1 < stride := by omega
    simp only [steps, Nat.add_mul_div_left _ _ stride_pos, Nat.div_eq_of_lt short, Nat.zero_add]
  | valid =>
    cases covers
    -- a kernel that is there reaches as far forward as backward
    have kernel_pos : max kernel 1 = kernel := by omega
    have whole : stride * (input - 1) + dilation * (kernel - 1) + 1 =
        stride * (input - 1) + reach kernel dilation := by
      rw [reach, kernel_pos, Nat.add_assoc]
    have fits : ¬stride * (input - 1) + reach kernel dilation < reach kernel dilation := by omega
    have count : input - 1 + 1 = input := by omega
    simp only [whole, if_neg fits, Nat.add_sub_cancel, Nat.mul_div_cancel_left _ stride_pos, count]

theorem convolution_of_transposed {data kernel spatial : Spatial} {attributes : ConvAttributes}
    (covers : transposed op data kernel attributes = .ok spatial) :
    convolution op' spatial kernel attributes = .ok data := by
  simp only [transposed, bind_eq_ok, pure_eq_ok, Except.ok.injEq] at covers
  obtain ⟨height, high, width, wide, rfl⟩ := covers
  simp only [convolution, forward_of_backward high, forward_of_backward wide, ok_bind, pure_eq_ok]

end Window

namespace Inference

variable {op op' : String} {attributes : ConvAttributes} {type : OutputType} {data filter : Node}

/-- What a transposed convolution without given sizes tells of its inputs and its output. -/
theorem transposedConvolution_eq_ok :
    transposedConvolution op attributes [data, filter] = .ok type ↔
      ∃ image kernel spatial, rankFour op data.shape = .ok image ∧
        rankFour op filter.shape = .ok kernel ∧ image.second = kernel.first ∧
        Window.transposed op image.spatial kernel.spatial attributes = .ok spatial ∧
        type = ([image.first, kernel.second, spatial.height, spatial.width], data.elementType) := by
  simp only [transposedConvolution, transposedInputs, ok_bind, bind_eq_ok, throw_eq_error, error_bind,
    guard_eq_ok, pure_eq_ok, not_not, Except.ok.injEq, eq_comm (a := type)]
  constructor
  · rintro ⟨image, ranked, kernel, ranked', channels, spatial, covers, same⟩
    exact ⟨image, kernel, spatial, ranked, ranked', channels, covers, same⟩
  · rintro ⟨image, kernel, spatial, ranked, ranked', channels, covers, same⟩
    exact ⟨image, ranked, kernel, ranked', channels, spatial, covers, same⟩

/-- A convolution whose filter starts with the outputs. -/
theorem convolution_of_image {image filter : Node} {batch inputs outputs : Nat}
    {extents kernel spatial : Spatial}
    (shape : image.shape = [batch, inputs, extents.height, extents.width])
    (filterShape : filter.shape = [outputs, inputs, kernel.height, kernel.width])
    (slides : Window.convolution op extents kernel attributes = .ok spatial) :
    convolution op attributes [image, filter] =
      .ok ([batch, outputs, spatial.height, spatial.width], image.elementType) := by
  have ranked : rankFour op image.shape = .ok ⟨batch, inputs, extents⟩ := rankFour_eq_ok.2 shape
  have ranked' : rankFour op filter.shape = .ok ⟨outputs, inputs, kernel⟩ := rankFour_eq_ok.2 filterShape
  simp only [convolution, twoInputs, ok_bind, ranked, ranked', ne_eq, not_true_eq_false, if_false, slides,
    pure_eq_ok]

end Inference

namespace Graph

/-- Where a transposed convolution without given sizes is added, the convolution of its output by the same
filter and with the same attributes can be added behind it, and has the shape and the element type of the
data. -/
theorem convolution_undoes_transposed (graph after : Graph) (attributes : ConvAttributes)
    (data filter : NodeId) (transposed : Node)
    (added : graph.addOp (.convolutionBackpropData attributes) [data, filter] =
      .ok (transposed, after)) :
    ∃ source kernel batch inputs outputs height width rows columns,
      graph.node? data = some source ∧ source.shape = [batch, inputs, height, width] ∧
      graph.node? filter = some kernel ∧ kernel.shape = [inputs, outputs, rows, columns] ∧
      ∃ undone last, after.addOp (.convolution attributes) [transposed.id, filter] =
          .ok (undone, last) ∧
        undone.shape = source.shape ∧ undone.elementType = source.elementType := by
  obtain ⟨type, inferred, pushed⟩ := addOp_eq_ok.1 added
  cases pushed
  obtain ⟨source, kernel, held, held', typed⟩ := infer_pair_eq_ok.1 inferred
  obtain ⟨image, window, spatial, ranked, ranked', channels, covers, rfl⟩ :=
    Inference.transposedConvolution_eq_ok.1 typed
  have shape := Inference.rankFour_eq_ok.1 ranked
  have filterShape := Inference.rankFour_eq_ok.1 ranked'
  rw [← channels] at filterShape
  let type : OutputType :=
    ([image.first, window.second, spatial.height, spatial.width], source.elementType)
  let pushed := graph.push (.convolutionBackpropData attributes) [data, filter] type
  have grown : graph.Extends pushed.2 := graph.extends_push _ _ _
  have back : (Op.convolution attributes).infer [pushed.1, kernel] =
      .ok (source.shape, source.elementType) := by
    rw [shape]
    exact Inference.convolution_of_image rfl filterShape (Window.convolution_of_transposed covers)
  have inferred' := infer_pair_eq_ok.2
    ⟨pushed.1, kernel, graph.node?_push_self _ _ _, grown.node? held', back⟩
  exact ⟨source, kernel, image.first, image.second, window.second, _, _, _, _, held, shape, held',
    filterShape, _, _, addOp_eq_ok.2 ⟨_, inferred', rfl⟩, rfl, rfl⟩

/-- An image of four channels and a filter from them to six. -/
def imageAndFilter : Graph :=
  afterCalls [.parameter .f32 [1, 4, 5, 7], .parameter .f32 [4, 6, 3, 2]]

theorem convolution_undoes_transposed_strided :
    ∃ transposed after, imageAndFilter.addOp
        (.convolutionBackpropData ⟨⟨2, 3⟩, ⟨2, 1⟩, .valid⟩) [0, 1] = .ok (transposed, after) ∧
      transposed.shape = [1, 6, 13, 20] ∧
      ∃ undone last, after.addOp (.convolution ⟨⟨2, 3⟩, ⟨2, 1⟩, .valid⟩) [transposed.id, 1] =
        .ok (undone, last) ∧ undone.shape = [1, 4, 5, 7] := by
  have succeeds : (imageAndFilter.addOp
      (.convolutionBackpropData ⟨⟨2, 3⟩, ⟨2, 1⟩, .valid⟩) [0, 1]).toOption.bind
        (fun added => some added.1.shape) = some [1, 6, 13, 20] := by decide
  obtain ⟨⟨transposed, after⟩, added, shape⟩ := exists_of_toOption_bind succeeds
  obtain ⟨source, _, _, _, _, _, _, _, _, held, _, _, _, undone, last, added', same, _⟩ :=
    convolution_undoes_transposed imageAndFilter after _ 0 1 transposed added
  cases held
  exact ⟨transposed, after, added, Option.some.inj shape, undone, last, added', same⟩

end Graph

end PartitionLowering
