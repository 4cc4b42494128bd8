import PartitionLowering.Engine.Inference
import PartitionLowering.Proofs.Engine.Extents

/-!
What inference that succeeds tells.  Inputs of positive extents give an output of positive extents,
whatever integers an operation reads (`Op.infer_positive`).  A transpose and a reshape keep the product
of the extents (`Op.infer_prod`), and the filter of a convolution ends in two spatial extents
(`Op.infer_filter`).
-/

set_option autoImplicit false

namespace PartitionLowering

namespace Inference

variable {op : String} {nodes : List Node}

/-! ## Inputs -/

theorem oneInput_eq_ok {data : Node} : oneInput op nodes = .ok data ↔ nodes = [data] := by
  rcases nodes with _ | ⟨first, _ | ⟨second, rest⟩⟩ <;> simp [oneInput]

theorem twoInputs_eq_ok {pair : Node × Node} :
    twoInputs op nodes = .ok pair ↔ nodes = [pair.1, pair.2] := by
  rcases nodes with _ | ⟨first, _ | ⟨second, _ | ⟨third, rest⟩⟩⟩ <;>
    simp [twoInputs, Prod.ext_iff]

theorem threeInputs_eq_ok {triple : Node × Node × Node} :
    threeInputs op nodes = .ok triple ↔ nodes = [triple.1, triple.2.1, triple.2.2] := by
  rcases nodes with _ | ⟨first, _ | ⟨second, _ | ⟨third, _ | ⟨fourth, rest⟩⟩⟩⟩ <;>
    simp [threeInputs, Prod.ext_iff]

theorem rankFour_eq_ok {shape : Shape} {quad : Quad} :
    rankFour op shape = .ok quad ↔
      shape = [quad.first, quad.second, quad.spatial.height, quad.spatial.width] := by
  obtain ⟨first, second, height, width⟩ := quad
  rcases shape with _ | ⟨a, _ | ⟨b, _ | ⟨c, _ | ⟨d, _ | ⟨e, rest⟩⟩⟩⟩⟩ <;> simp [rankFour]

theorem rankFive_eq_ok {shape : Shape} {grouped : Nat × Quad} :
    rankFive op shape = .ok grouped ↔
      shape = [grouped.1, grouped.2.first, grouped.2.second, grouped.2.spatial.height,
        grouped.2.spatial.width] := by
  obtain ⟨groups, first, second, height, width⟩ := grouped
  rcases shape with _ | ⟨a, _ | ⟨b, _ | ⟨c, _ | ⟨d, _ | ⟨e, _ | ⟨f, rest⟩⟩⟩⟩⟩⟩ <;> simp [rankFive]

theorem transposedInputs_eq_ok {inputs : Node × Node × Option Node} :
    transposedInputs op nodes = .ok inputs ↔
      nodes = inputs.1 :: inputs.2.1 :: inputs.2.2.toList := by
  obtain ⟨data, filter, sizes⟩ := inputs
  rcases nodes with _ | ⟨first, _ | ⟨second, _ | ⟨third, _ | ⟨fourth, rest⟩⟩⟩⟩ <;>
    cases sizes <;> simp [transposedInputs]

/-! ## Rearrangements -/

section Rearrangements

variable {type : OutputType}

theorem transpose_prod (inferred : transpose op nodes = .ok type) :
    ∃ data order, nodes = [data, order] ∧ type.1.prod = data.shape.prod := by
  simp only [transpose, bind_eq_ok, twoInputs_eq_ok, pure_eq_ok] at inferred
  obtain ⟨⟨data, order⟩, read, _, _, shape, permuted, same⟩ := inferred
  cases same
  exact ⟨data, order, read, (Shape.perm_of_permute permuted).prod_eq⟩

theorem reshape_prod {specialZero : Bool} (inferred : reshape op specialZero nodes = .ok type) :
    ∃ data pattern, nodes = [data, pattern] ∧ type.1.prod = data.shape.prod := by
  simp only [reshape, bind_eq_ok, twoInputs_eq_ok, pure_eq_ok] at inferred
  obtain ⟨⟨data, pattern⟩, read, _, _, shape, reshaped, same⟩ := inferred
  cases same
  exact ⟨data, pattern, read, Shape.prod_of_reshape reshaped⟩

end Rearrangements

/-! ## Convolutions -/

section Convolutions

variable {attributes : ConvAttributes} {type : OutputType}

theorem convolution_spatial (inferred : convolution op attributes nodes = .ok type) :
    ∃ data filter image kernel spatial, nodes = [data, filter] ∧
      rankFour op data.shape = .ok image ∧ rankFour op filter.shape = .ok kernel ∧
      Window.convolution op image.spatial kernel.spatial attributes = .ok spatial ∧
      type.1 = [image.first, kernel.first, spatial.height, spatial.width] := by
  simp only [convolution, bind_eq_ok, twoInputs_eq_ok, pure_eq_ok, throw_eq_error, error_bind,
    guard_eq_ok] at inferred
  obtain ⟨⟨data, filter⟩, read, image, dataShape, kernel, filterShape, _, spatial, slid, same⟩ := inferred
  cases same
  exact ⟨data, filter, image, kernel, spatial, read, dataShape, filterShape, slid, rfl⟩

theorem groupConvolution_spatial (inferred : groupConvolution op attributes nodes = .ok type) :
    ∃ data filter image groups kernel spatial, nodes = [data, filter] ∧
      rankFour op data.shape = .ok image ∧ rankFive op filter.shape = .ok (groups, kernel) ∧
      Window.convolution op image.spatial kernel.spatial attributes = .ok spatial ∧
      type.1 = [image.first, groups * kernel.first, spatial.height, spatial.width] := by
  simp only [groupConvolution, bind_eq_ok, twoInputs_eq_ok, pure_eq_ok, throw_eq_error, error_bind,
    guard_eq_ok] at inferred
  obtain ⟨⟨data, filter⟩, read, image, dataShape, ⟨groups, kernel⟩, filterShape, _, spatial, slid, same⟩ :=
    inferred
  cases same
  exact ⟨data, filter, image, groups, kernel, spatial, read, dataShape, filterShape, slid, rfl⟩

theorem outputExtents_pos {sizes : List Int} {spatial : Spatial}
    (asked : outputExtents op sizes = .ok spatial) : 0 < spatial.height ∧ 0 < spatial.width := by
  rcases sizes with _ | ⟨height, _ | ⟨width, _ | ⟨other, rest⟩⟩⟩
  case cons.cons.nil =>
    by_cases positive : 0 < height ∧ 0 < width
    · rw [outputExtents, if_pos positive, Except.ok.injEq] at asked
      subst asked
      exact ⟨Int.lt_toNat.2 positive.1, Int.lt_toNat.2 positive.2⟩
    · simp [outputExtents, positive] at asked
  all_goals cases asked

theorem transposed_pos {data kernel spatial : Spatial}
    (covers : Window.transposed op data kernel attributes = .ok spatial) :
    0 < spatial.height ∧ 0 < spatial.width := by
  simp only [Window.transposed, bind_eq_ok, pure_eq_ok, Except.ok.injEq] at covers
  obtain ⟨height, high, width, wide, rfl⟩ := covers
  exact ⟨Window.backward_pos high, Window.backward_pos wide⟩

theorem transposedConvolution_spatial
    (inferred : transposedConvolution op attributes nodes = .ok type) :
    ∃ data filter rest image kernel, ∃ spatial : Spatial, nodes = data :: filter :: rest ∧
      rankFour op data.shape = .ok image ∧ rankFour op filter.shape = .ok kernel ∧
      (0 < spatial.height ∧ 0 < spatial.width) ∧
      type.1 = [image.first, kernel.second, spatial.height, spatial.width] := by
  simp only [transposedConvolution, bind_eq_ok, transposedInputs_eq_ok, pure_eq_ok, throw_eq_error,
    error_bind, guard_eq_ok] at inferred
  obtain ⟨⟨data, filter, sizes⟩, read, image, dataShape, kernel, filterShape, _, covers⟩ := inferred
  have extents : ∃ spatial : Spatial, (0 < spatial.height ∧ 0 < spatial.width) ∧
      type.1 = [image.first, kernel.second, spatial.height, spatial.width] := by
    cases sizes with
    | none =>
      obtain ⟨spatial, covered, same⟩ := bind_eq_ok.1 covers
      cases same
      exact ⟨spatial, transposed_pos covered, rfl⟩
    | some sizes =>
      obtain ⟨_, _, asked⟩ := bind_eq_ok.1 covers
      obtain ⟨spatial, given, same⟩ := bind_eq_ok.1 asked
      cases same
      exact ⟨spatial, outputExtents_pos given, rfl⟩
  obtain ⟨spatial, positive, shape⟩ := extents
  exact ⟨data, filter, _, image, kernel, spatial, read, dataShape, filterShape, positive, shape⟩

end Convolutions

/-! ## Positive extents -/

section Positive

open Shape (Positive)

variable {type : OutputType} (positive : ∀ node ∈ nodes, node.shape.Positive)

theorem convolution_window_pos {data kernel spatial : Spatial} {attributes : ConvAttributes}
    (given : 0 < data.height ∧ 0 < data.width)
    (slid : Window.convolution op data kernel attributes = .ok spatial) :
    0 < spatial.height ∧ 0 < spatial.width := by
  simp only [Window.convolution, bind_eq_ok, pure_eq_ok, Except.ok.injEq] at slid
  obtain ⟨height, high, width, wide, rfl⟩ := slid
  exact ⟨Window.forward_pos given.1 high, Window.forward_pos given.2 wide⟩

theorem pool_window_pos {data spatial : Spatial} {attributes : PoolAttributes}
    (given : 0 < data.height ∧ 0 < data.width)
    (slid : Window.pool op data attributes = .ok spatial) : 0 < spatial.height ∧ 0 < spatial.width := by
  simp only [Window.pool, bind_eq_ok, pure_eq_ok, Except.ok.injEq] at slid
  obtain ⟨height, high, width, wide, rfl⟩ := slid
  exact ⟨Window.forward_pos given.1 high, Window.forward_pos given.2 wide⟩

theorem rankFour_pos {shape : Shape} {quad : Quad} (split : rankFour op shape = .ok quad)
    (given : shape.Positive) :
    0 < quad.first ∧ 0 < quad.second ∧ 0 < quad.spatial.height ∧ 0 < quad.spatial.width := by
  rw [rankFour_eq_ok.1 split] at given
  simpa [Positive] using given

theorem rankFive_pos {shape : Shape} {groups : Nat} {quad : Quad}
    (split : rankFive op shape = .ok (groups, quad)) (given : shape.Positive) :
    0 < groups ∧ 0 < quad.first ∧ 0 < quad.second ∧ 0 < quad.spatial.height ∧
      0 < quad.spatial.width := by
  rw [rankFive_eq_ok.1 split] at given
  simpa [Positive] using given

theorem positive_image {batch channels : Nat} {spatial : Spatial} (first : 0 < batch)
    (second : 0 < channels) (extents : 0 < spatial.height ∧ 0 < spatial.width) :
    Positive [batch, channels, spatial.height, spatial.width] :=
  .cons first (.cons second (.cons extents.1 (.cons extents.2 Shape.positive_nil)))

include positive

theorem convolution_positive {attributes : ConvAttributes}
    (inferred : convolution op attributes nodes = .ok type) : type.1.Positive := by
  obtain ⟨data, filter, image, kernel, spatial, rfl, dataShape, filterShape, slid, shape⟩ :=
    convolution_spatial inferred
  obtain ⟨batch, _, extents⟩ := rankFour_pos dataShape (positive data (by simp))
  obtain ⟨filters, _⟩ := rankFour_pos filterShape (positive filter (by simp))
  rw [shape]
  exact positive_image batch filters (convolution_window_pos extents slid)

theorem groupConvolution_positive {attributes : ConvAttributes}
    (inferred : groupConvolution op attributes nodes = .ok type) : type.1.Positive := by
  obtain ⟨data, filter, image, groups, kernel, spatial, rfl, dataShape, filterShape, slid, shape⟩ :=
    groupConvolution_spatial inferred
  obtain ⟨batch, _, extents⟩ := rankFour_pos dataShape (positive data (by simp))
  obtain ⟨several, filters, _⟩ := rankFive_pos filterShape (positive filter (by simp))
  rw [shape]
  exact positive_image batch (Nat.mul_pos several filters) (convolution_window_pos extents slid)

theorem transposedConvolution_positive {attributes : ConvAttributes}
    (inferred : transposedConvolution op attributes nodes = .ok type) : type.1.Positive := by
  obtain ⟨data, filter, _, image, kernel, spatial, rfl, dataShape, filterShape, extents, shape⟩ :=
    transposedConvolution_spatial inferred
  obtain ⟨batch, _⟩ := rankFour_pos dataShape (positive data (by simp))
  obtain ⟨_, filters, _⟩ := rankFour_pos filterShape (positive filter (by simp))
  rw [shape]
  exact positive_image batch filters extents

theorem pool_positive {attributes : PoolAttributes}
    (inferred : pool op attributes nodes = .ok type) : type.1.Positive := by
  simp only [pool, bind_eq_ok, oneInput_eq_ok, pure_eq_ok] at inferred
  obtain ⟨data, rfl, image, dataShape, spatial, slid, same⟩ := inferred
  cases same
  obtain ⟨batch, channels, extents⟩ := rankFour_pos dataShape (positive data (by simp))
  exact positive_image batch channels (pool_window_pos extents slid)

theorem arithmetic_positive (inferred : arithmetic op nodes = .ok type) : type.1.Positive := by
  simp only [arithmetic, bind_eq_ok, twoInputs_eq_ok, pure_eq_ok, throw_eq_error, error_bind,
    guard_eq_ok] at inferred
  obtain ⟨⟨lhs, rhs⟩, rfl, _, shape, joined, same⟩ := inferred
  cases same
  exact (positive lhs (by simp)).broadcast (positive rhs (by simp)) joined

theorem reduceMean_positive {keepDims : Bool}
    (inferred : reduceMean op keepDims nodes = .ok type) : type.1.Positive := by
  simp only [reduceMean, bind_eq_ok, twoInputs_eq_ok, pure_eq_ok] at inferred
  obtain ⟨⟨data, axes⟩, rfl, _, _, reduced, _, same⟩ := inferred
  cases same
  exact (positive data (by simp)).reduceAxes reduced keepDims

theorem interpolate_positive (inferred : interpolate op nodes = .ok type) : type.1.Positive := by
  simp only [interpolate, bind_eq_ok, threeInputs_eq_ok, pure_eq_ok, throw_eq_error, error_bind,
    guard_eq_ok] at inferred
  obtain ⟨⟨data, sizes, axes⟩, rfl, _, _, _, _, _, shape, resized, same⟩ := inferred
  cases same
  exact (positive data (by simp)).resizeAxes resized

theorem concat_positive {axis : Int} (inferred : concat op axis nodes = .ok type) :
    type.1.Positive := by
  cases nodes with
  | nil => cases inferred
  | cons first rest =>
    simp only [concat, bind_eq_ok, pure_eq_ok] at inferred
    obtain ⟨position, _, shape, joined, same⟩ := inferred
    cases same
    exact (positive first List.mem_cons_self).joinParts joined

/-- Operations that leave the shape of their only input as it is. -/
theorem positive_of_kept {data : Node} (read : nodes = [data]) (kept : type.1 = data.shape) :
    type.1.Positive := by
  rw [kept]
  exact positive data (by simp [read])

theorem elementwise_positive (inferred : elementwise op nodes = .ok type) : type.1.Positive := by
  simp only [elementwise, bind_eq_ok, oneInput_eq_ok, pure_eq_ok] at inferred
  obtain ⟨data, read, same⟩ := inferred
  cases same
  exact positive_of_kept positive read rfl

theorem clamp_positive {min max : Float} (inferred : clamp op min max nodes = .ok type) :
    type.1.Positive := by
  simp only [clamp, bind_eq_ok, oneInput_eq_ok, pure_eq_ok, throw_eq_error, error_bind,
    guard_eq_ok] at inferred
  obtain ⟨data, read, _, same⟩ := inferred
  cases same
  exact positive_of_kept positive read rfl

theorem softmax_positive {axis : Nat} (inferred : softmax op axis nodes = .ok type) :
    type.1.Positive := by
  simp only [softmax, bind_eq_ok, oneInput_eq_ok, pure_eq_ok, throw_eq_error, error_bind,
    guard_eq_ok] at inferred
  obtain ⟨data, read, _, same⟩ := inferred
  cases same
  exact positive_of_kept positive read rfl

theorem convert_positive {destination : ElementType}
    (inferred : convert op destination nodes = .ok type) : type.1.Positive := by
  simp only [convert, bind_eq_ok, oneInput_eq_ok, pure_eq_ok] at inferred
  obtain ⟨data, read, same⟩ := inferred
  cases same
  exact positive_of_kept positive read rfl

end Positive

end Inference

namespace Op

variable {op : Op} {nodes : List Node} {type : OutputType}

theorem infer_positive (positive : ∀ node ∈ nodes, node.shape.Positive)
    (inferred : op.infer nodes = .ok type) : type.1.Positive := by
  cases op with
  | parameter => cases inferred
  | constant payload => cases inferred
  | transpose =>
    obtain ⟨data, _, rfl, kept⟩ := Inference.transpose_prod inferred
    exact (positive data (by simp)).of_prod kept
  | reshape specialZero =>
    obtain ⟨data, _, rfl, kept⟩ := Inference.reshape_prod inferred
    exact (positive data (by simp)).of_prod kept
  | add => exact Inference.arithmetic_positive positive inferred
  | multiply => exact Inference.arithmetic_positive positive inferred
  | convolution attributes => exact Inference.convolution_positive positive inferred
  | groupConvolution attributes => exact Inference.groupConvolution_positive positive inferred
  | convolutionBackpropData attributes =>
    exact Inference.transposedConvolution_positive positive inferred
  | maxPool attributes => exact Inference.pool_positive positive inferred
  | avgPool attributes excludePad => exact Inference.pool_positive positive inferred
  | concat axis => exact Inference.concat_positive positive inferred
  | relu => exact Inference.elementwise_positive positive inferred
  | clamp min max => exact Inference.clamp_positive positive inferred
  | tanh => exact Inference.elementwise_positive positive inferred
  | sigmoid => exact Inference.elementwise_positive positive inferred
  | hSwish => exact Inference.elementwise_positive positive inferred
  | softmax axis => exact Inference.softmax_positive positive inferred
  | reduceMean keepDims => exact Inference.reduceMean_positive positive inferred
  | interpolate mode => exact Inference.interpolate_positive positive inferred
  | convert destination => exact Inference.convert_positive positive inferred

/-- Operations that give the elements of their data another arrangement. -/
def rearranges : Op → Bool
  | .transpose | .reshape _ => true
  | _ => false

theorem infer_prod (rearranging : op.rearranges = true) (inferred : op.infer nodes = .ok type) :
    ∃ data, nodes[0]? = some data ∧ type.1.prod = data.shape.prod := by
  cases op with
  | transpose =>
    obtain ⟨data, _, rfl, kept⟩ := Inference.transpose_prod inferred
    exact ⟨data, rfl, kept⟩
  | reshape specialZero =>
    obtain ⟨data, _, rfl, kept⟩ := Inference.reshape_prod inferred
    exact ⟨data, rfl, kept⟩
  | _ => cases rearranging

/-- The axis of a convolution's filter from which on its extents are those of the kernel. -/
def kernelAxis? : Op → Option Nat
  | .convolution _ | .convolutionBackpropData _ => some 2
  | .groupConvolution _ => some 3
  | _ => none

theorem infer_filter {axis : Nat} (convolves : op.kernelAxis? = some axis)
    (inferred : op.infer nodes = .ok type) :
    ∃ filter height width, nodes[1]? = some filter ∧ filter.shape.drop axis = [height, width] := by
  cases op with
  | convolution attributes =>
    obtain ⟨_, filter, _, kernel, _, rfl, _, shape, _⟩ := Inference.convolution_spatial inferred
    cases convolves
    exact ⟨filter, _, _, rfl, by rw [Inference.rankFour_eq_ok.1 shape]; rfl⟩
  | groupConvolution attributes =>
    obtain ⟨_, filter, _, _, kernel, _, rfl, _, shape, _⟩ := Inference.groupConvolution_spatial inferred
    cases convolves
    exact ⟨filter, _, _, rfl, by rw [Inference.rankFive_eq_ok.1 shape]; rfl⟩
  | convolutionBackpropData attributes =>
    obtain ⟨_, filter, _, _, kernel, _, rfl, _, shape, _⟩ :=
      Inference.transposedConvolution_spatial inferred
    cases convolves
    exact ⟨filter, _, _, rfl, by rw [Inference.rankFour_eq_ok.1 shape]; rfl⟩
  | _ => cases convolves

end Op

end PartitionLowering
