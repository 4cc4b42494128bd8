import PartitionLowering.Proofs.Engine.Extension
import PartitionLowering.Proofs.Running

/-!
What inference reads of a node: its type, and at the positions of `Op.integerPositions` the integers
that it holds as a constant.  Main statement: `Op.infer_congr`.  Nodes that are known by no more than
this stand for all others like them: `Node.ofType`, `Node.ofInt32s`, `Node.ofInt64s`.
-/

set_option autoImplicit false

namespace PartitionLowering

/-- The input positions at which an operation asks for integer constants. -/
def Op.integerPositions : Op → List Nat
  | .transpose | .reshape _ | .reduceMean _ => [1]
  | .convolutionBackpropData _ => [2]
  | .interpolate _ => [1, 2]
  | _ => []

namespace Node

/-- A node of which no more than its type is known. -/
def ofType (type : OutputType) : Node :=
  ⟨0, .parameter, [], type.1, type.2⟩

def ofInt32s (values : List Int32) : Node :=
  ⟨0, .constant (values.flatMap LittleEndian.encodeInt32), [], [values.length], .i32⟩

def ofInt64s (values : List Int64) : Node :=
  ⟨0, .constant (values.flatMap LittleEndian.encodeInt64), [], [values.length], .i64⟩

@[simp] theorem outputType_ofType (type : OutputType) : (ofType type).outputType = type := rfl

@[simp] theorem shape_ofType (type : OutputType) : (ofType type).shape = type.1 := rfl

@[simp] theorem elementType_ofType (type : OutputType) : (ofType type).elementType = type.2 := rfl

abbrev Alike (first second : Node) : Prop :=
  first.outputType = second.outputType

theorem Alike.shape {first second : Node} (alike : first.Alike second) :
    first.shape = second.shape :=
  congrArg Prod.fst alike

theorem Alike.elementType {first second : Node} (alike : first.Alike second) :
    first.elementType = second.elementType :=
  congrArg Prod.snd alike

theorem Alike.rank {first second : Node} (alike : first.Alike second) :
    first.rank = second.rank :=
  congrArg List.length alike.shape

end Node

/-- Nodes that hold the same integers, one by one, hold the same at each position. -/
theorem integers_at {nodes others : List Node}
    (same : List.Forall₂ (fun node other => node.integers? = other.integers?) nodes others)
    (position : Nat) :
    nodes[position]?.bind Node.integers? = others[position]?.bind Node.integers? := by
  induction same generalizing position with
  | nil => rfl
  | cons first _ ih =>
    cases position with
    | zero => exact first
    | succ position => exact ih position

namespace Inference

variable {nodes others : List Node}

/-! ## Arities -/

theorem oneInput_alike (op : String) (alike : List.Forall₂ Node.Alike nodes others) :
    (∃ error, oneInput op nodes = .error error ∧ oneInput op others = .error error) ∨
      ∃ data data', nodes = [data] ∧ others = [data'] ∧ data.Alike data' := by
  have lengths := alike.length_eq
  rcases alike with _ | ⟨first, _ | ⟨second, rest⟩⟩
  · exact .inl ⟨_, rfl, rfl⟩
  · exact .inr ⟨_, _, rfl, rfl, first⟩
  · exact .inl ⟨_, rfl, by rw [oneInput, ← lengths]; simp⟩

theorem twoInputs_alike (op : String) (alike : List.Forall₂ Node.Alike nodes others) :
    (∃ error, twoInputs op nodes = .error error ∧ twoInputs op others = .error error) ∨
      ∃ first second first' second', nodes = [first, second] ∧ others = [first', second'] ∧
        first.Alike first' ∧ second.Alike second' := by
  have lengths := alike.length_eq
  rcases alike with _ | ⟨first, _ | ⟨second, _ | ⟨third, rest⟩⟩⟩
  · exact .inl ⟨_, rfl, rfl⟩
  · exact .inl ⟨_, rfl, rfl⟩
  · exact .inr ⟨_, _, _, _, rfl, rfl, first, second⟩
  · exact .inl ⟨_, rfl, by rw [twoInputs, ← lengths]; simp⟩

theorem threeInputs_alike (op : String) (alike : List.Forall₂ Node.Alike nodes others) :
    (∃ error, threeInputs op nodes = .error error ∧ threeInputs op others = .error error) ∨
      ∃ first second third first' second' third',
        nodes = [first, second, third] ∧ others = [first', second', third'] ∧
          first.Alike first' ∧ second.Alike second' ∧ third.Alike third' := by
  have lengths := alike.length_eq
  rcases alike with _ | ⟨first, _ | ⟨second, _ | ⟨third, _ | ⟨fourth, rest⟩⟩⟩⟩
  · exact .inl ⟨_, rfl, rfl⟩
  · exact .inl ⟨_, rfl, rfl⟩
  · exact .inl ⟨_, rfl, rfl⟩
  · exact .inr ⟨_, _, _, _, _, _, rfl, rfl, first, second, third⟩
  · exact .inl ⟨_, rfl, by rw [threeInputs, ← lengths]; simp⟩

/-! ## Operations -/

theorem integersAt_congr (op : String) (position : Nat) {node other : Node}
    (integers : node.integers? = other.integers?) :
    integersAt op position node = integersAt op position other := by
  rw [integersAt, integersAt, integers]

theorem transpose_congr (op : String) (alike : List.Forall₂ Node.Alike nodes others)
    (integers : nodes[1]?.bind Node.integers? = others[1]?.bind Node.integers?) :
    transpose op nodes = transpose op others := by
  rcases twoInputs_alike op alike with ⟨error, left, right⟩ | ⟨_, _, _, _, rfl, rfl, data, _⟩
  · rw [transpose, transpose, left, right]
  · have order := integersAt_congr op 1 integers
    simp only [transpose, twoInputs, ok_bind, order, data.shape, data.elementType]

theorem reshape_congr (op : String) (specialZero : Bool)
    (alike : List.Forall₂ Node.Alike nodes others)
    (integers : nodes[1]?.bind Node.integers? = others[1]?.bind Node.integers?) :
    reshape op specialZero nodes = reshape op specialZero others := by
  rcases twoInputs_alike op alike with ⟨error, left, right⟩ | ⟨_, _, _, _, rfl, rfl, data, _⟩
  · rw [reshape, reshape, left, right]
  · have pattern := integersAt_congr op 1 integers
    simp only [reshape, twoInputs, ok_bind, pattern, data.shape, data.elementType]

theorem arithmetic_congr (op : String) (alike : List.Forall₂ Node.Alike nodes others) :
    arithmetic op nodes = arithmetic op others := by
  rcases twoInputs_alike op alike with ⟨error, left, right⟩ | ⟨_, _, _, _, rfl, rfl, lhs, rhs⟩
  · rw [arithmetic, arithmetic, left, right]
  · simp only [arithmetic, twoInputs, ok_bind, lhs.shape, lhs.elementType, rhs.shape, rhs.elementType]

theorem convolution_congr (op : String) (attributes : ConvAttributes)
    (alike : List.Forall₂ Node.Alike nodes others) :
    convolution op attributes nodes = convolution op attributes others := by
  rcases twoInputs_alike op alike with ⟨error, left, right⟩ | ⟨_, _, _, _, rfl, rfl, data, filter⟩
  · rw [convolution, convolution, left, right]
  · simp only [convolution, twoInputs, ok_bind, data.shape, data.elementType, filter.shape]

theorem groupConvolution_congr (op : String) (attributes : ConvAttributes)
    (alike : List.Forall₂ Node.Alike nodes others) :
    groupConvolution op attributes nodes = groupConvolution op attributes others := by
  rcases twoInputs_alike op alike with ⟨error, left, right⟩ | ⟨_, _, _, _, rfl, rfl, data, filter⟩
  · rw [groupConvolution, groupConvolution, left, right]
  · simp only [groupConvolution, twoInputs, ok_bind, data.shape, data.elementType, filter.shape]

theorem transposedConvolution_congr (op : String) (attributes : ConvAttributes)
    (alike : List.Forall₂ Node.Alike nodes others)
    (integers : nodes[2]?.bind Node.integers? = others[2]?.bind Node.integers?) :
    transposedConvolution op attributes nodes = transposedConvolution op attributes others := by
  have lengths := alike.length_eq
  rcases alike with _ | ⟨data, _ | ⟨filter, _ | ⟨sizes, _ | ⟨fourth, rest⟩⟩⟩⟩
  · rfl
  · rfl
  · simp only [transposedConvolution, transposedInputs, ok_bind, data.shape, data.elementType, filter.shape]
  · have extents := integersAt_congr op 2 integers
    simp only [transposedConvolution, transposedInputs, ok_bind, data.shape, data.elementType, filter.shape,
      extents]
  · rw [transposedConvolution, transposedConvolution, transposedInputs, transposedInputs, lengths]
    all_goals simp

theorem pool_congr (op : String) (attributes : PoolAttributes)
    (alike : List.Forall₂ Node.Alike nodes others) :
    pool op attributes nodes = pool op attributes others := by
  rcases oneInput_alike op alike with ⟨error, left, right⟩ | ⟨_, _, rfl, rfl, data⟩
  · rw [pool, pool, left, right]
  · simp only [pool, oneInput, ok_bind, data.shape, data.elementType]

theorem joinParts_congr (op : String) (axis : Nat) {first first' : Node}
    (head : first.Alike first') (alike : List.Forall₂ Node.Alike nodes others) (shape : Shape) :
    joinParts op axis first nodes shape = joinParts op axis first' others shape := by
  induction alike generalizing shape with
  | nil => rfl
  | cons part _ ih =>
    simp only [joinParts, part.shape, part.elementType, head.shape, head.elementType, ih]

theorem concat_congr (op : String) (axis : Int) (alike : List.Forall₂ Node.Alike nodes others) :
    concat op axis nodes = concat op axis others := by
  rcases alike with _ | ⟨first, rest⟩
  · rfl
  · simp only [concat, first.rank, first.shape, first.elementType, joinParts_congr op _ first rest]

theorem elementwise_congr (op : String) (alike : List.Forall₂ Node.Alike nodes others) :
    elementwise op nodes = elementwise op others := by
  rcases oneInput_alike op alike with ⟨error, left, right⟩ | ⟨_, _, rfl, rfl, data⟩
  · rw [elementwise, elementwise, left, right]
  · simp only [elementwise, oneInput, ok_bind, data.shape, data.elementType]

theorem clamp_congr (op : String) (min max : Float)
    (alike : List.Forall₂ Node.Alike nodes others) :
    clamp op min max nodes = clamp op min max others := by
  rcases oneInput_alike op alike with ⟨error, left, right⟩ | ⟨_, _, rfl, rfl, data⟩
  · rw [clamp, clamp, left, right]
  · simp only [clamp, oneInput, ok_bind, data.shape, data.elementType]

theorem softmax_congr (op : String) (axis : Nat) (alike : List.Forall₂ Node.Alike nodes others) :
    softmax op axis nodes = softmax op axis others := by
  rcases oneInput_alike op alike with ⟨error, left, right⟩ | ⟨_, _, rfl, rfl, data⟩
  · rw [softmax, softmax, left, right]
  · simp only [softmax, oneInput, ok_bind, data.rank, data.shape, data.elementType]

theorem reduceMean_congr (op : String) (keepDims : Bool)
    (alike : List.Forall₂ Node.Alike nodes others)
    (integers : nodes[1]?.bind Node.integers? = others[1]?.bind Node.integers?) :
    reduceMean op keepDims nodes = reduceMean op keepDims others := by
  rcases twoInputs_alike op alike with ⟨error, left, right⟩ | ⟨_, _, _, _, rfl, rfl, data, _⟩
  · rw [reduceMean, reduceMean, left, right]
  · have axes := integersAt_congr op 1 integers
    simp only [reduceMean, twoInputs, ok_bind, axes, data.rank, data.shape, data.elementType]

theorem interpolate_congr (op : String) (alike : List.Forall₂ Node.Alike nodes others)
    (sizes : nodes[1]?.bind Node.integers? = others[1]?.bind Node.integers?)
    (axes : nodes[2]?.bind Node.integers? = others[2]?.bind Node.integers?) :
    interpolate op nodes = interpolate op others := by
  rcases threeInputs_alike op alike with
    ⟨error, left, right⟩ | ⟨_, _, _, _, _, _, rfl, rfl, data, _, _⟩
  · rw [interpolate, interpolate, left, right]
  · have sizes := integersAt_congr op 1 sizes
    have axes := integersAt_congr op 2 axes
    simp only [interpolate, threeInputs, ok_bind, sizes, axes, data.shape, data.elementType]

theorem convert_congr (op : String) (destination : ElementType)
    (alike : List.Forall₂ Node.Alike nodes others) :
    convert op destination nodes = convert op destination others := by
  rcases oneInput_alike op alike with ⟨error, left, right⟩ | ⟨_, _, rfl, rfl, data⟩
  · rw [convert, convert, left, right]
  · simp only [convert, oneInput, ok_bind, data.shape]

end Inference

/-- Inference reads no more of its input nodes than their types and the integers it asks for. -/
theorem Op.infer_congr (op : Op) {nodes others : List Node}
    (alike : List.Forall₂ Node.Alike nodes others)
    (integers : ∀ position ∈ op.integerPositions,
      nodes[position]?.bind Node.integers? = others[position]?.bind Node.integers?) :
    op.infer nodes = op.infer others := by
  cases op with
  | parameter => rfl
  | constant payload => rfl
  | transpose => exact Inference.transpose_congr _ alike (integers 1 (by simp [integerPositions]))
  | reshape specialZero =>
    exact Inference.reshape_congr _ specialZero alike (integers 1 (by simp [integerPositions]))
  | add => exact Inference.arithmetic_congr _ alike
  | multiply => exact Inference.arithmetic_congr _ alike
  | convolution attributes => exact Inference.convolution_congr _ attributes alike
  | groupConvolution attributes => exact Inference.groupConvolution_congr _ attributes alike
  | convolutionBackpropData attributes =>
    exact Inference.transposedConvolution_congr _ attributes alike
      (integers 2 (by simp [integerPositions]))
  | maxPool attributes => exact Inference.pool_congr _ attributes alike
  | avgPool attributes excludePad => exact Inference.pool_congr _ attributes alike
  | concat axis => exact Inference.concat_congr _ axis alike
  | relu => exact Inference.elementwise_congr _ alike
  | clamp min max => exact Inference.clamp_congr _ min max alike
  | tanh => exact Inference.elementwise_congr _ alike
  | sigmoid => exact Inference.elementwise_congr _ alike
  | hSwish => exact Inference.elementwise_congr _ alike
  | softmax axis => exact Inference.softmax_congr _ axis alike
  | reduceMean keepDims =>
    exact Inference.reduceMean_congr _ keepDims alike (integers 1 (by simp [integerPositions]))
  | interpolate mode =>
    exact Inference.interpolate_congr _ alike (integers 1 (by simp [integerPositions]))
      (integers 2 (by simp [integerPositions]))
  | convert destination => exact Inference.convert_congr _ destination alike

end PartitionLowering
