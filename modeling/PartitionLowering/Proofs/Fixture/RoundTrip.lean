import Mathlib.Data.List.Basic
import PartitionLowering.Proofs.Fixture.Options

/-!
Fixtures and settings read back from their text.  Each kind of value has one lemma `conveys`: its
JSON form is written and its reader takes the value from it.  The lemmas build on one another as the
forms do, up to `written_forms_read_back`, where the texts of all kinds come back as they were.  The
only assumption is about `real`, the way in which the `beta` of a softmax is written.
-/

set_option autoImplicit false

namespace PartitionLowering

open Json

/-! ## Tensors -/

theorem Json.conveys_ofBytes (bytes : List UInt8) :
    Conveys (list? uint8?) (.ofBytes bytes) bytes :=
  conveys_list fun byte _ => conveys_byte byte

theorem Tensor.conveys (tensor : Tensor) : Conveys ofJson? tensor.toJson tensor := by
  have type := conveys_choice (TensorType.ofKey?_key tensor.tensorType) .direct
  have dims := conveys_ofInt32s tensor.dims
  have allocation := conveys_choice (Allocation.ofKey?_key tensor.allocation) .direct
  have data := conveys_option (by simp [ofBytes]) conveys_ofBytes tensor.data
  constructor
  · refine .record ?_
    simp only [List.forall_mem_cons]
    exact ⟨type.written, dims.written, allocation.written, data.written, by simp⟩
  · rw [toJson, ofJson?, record?_record _ (by simp)]
    simp [Record.required, Record.defaulted, member?_cons, type.reads, dims.reads,
      allocation.reads, data.reads]

/-! ## Operand indices as keys -/

/-- The signs of an integer need no escape. -/
theorem Literal.escape_of_startsNumeral {c : Char} (start : Reader.StartsNumeral c) :
    escape c = [c] := by
  have printable : ¬ c.toNat < 32 := by
    rcases start with rfl | digit
    · decide
    · simp only [Char.isDigit, Bool.and_eq_true, decide_eq_true_eq, ge_iff_le,
        UInt32.le_iff_toNat_le] at digit
      have low : 48 ≤ c.toNat := digit.1
      omega
  simp [escape, start.ne '"' (by decide), start.ne '\\' (by decide), start.ne '\x08' (by decide),
    start.ne '\x0c' (by decide), start.ne '\n' (by decide), start.ne '\r' (by decide),
    start.ne '\t' (by decide), printable]

theorem Numeral.startsNumeral_of_mem_integerChars {value : Int} {c : Char}
    (member : c ∈ integerChars value) : Reader.StartsNumeral c := by
  rcases List.mem_append.1 member with sign | digit
  · unfold signChars at sign
    split at sign
    · exact .inl (List.mem_singleton.1 sign)
    · exact absurd sign List.not_mem_nil
  · exact .inr (Nat.isDigit_of_mem_toDigits (by decide) (by decide) digit)

theorem toList_int32Text (value : Int32) :
    (int32Text value).toList = Numeral.integerChars value.toInt :=
  Numeral.toList_toString value.toInt

theorem raw_ofString_int32Text (value : Int32) :
    (Literal.ofString (int32Text value)).raw = (Numeral.ofInt value.toInt).chars := by
  have plain : (Numeral.integerChars value.toInt).flatMap Literal.escape =
      (Numeral.integerChars value.toInt).flatMap fun c => [c] :=
    List.flatMap_congr fun c member =>
      Literal.escape_of_startsNumeral (Numeral.startsNumeral_of_mem_integerChars member)
  rw [Literal.ofString, toList_int32Text, plain, List.flatMap_singleton']
  simp [Numeral.chars, Numeral.ofInt, Numeral.integerChars, Numeral.fractionChars,
    Numeral.exponentChars]

/-- An operand index is written as a key in the digits from which it is read. -/
theorem Literal.operandIndex?_int32Text (index : OperandIndex) :
    (Literal.ofString (int32Text index)).operandIndex? = some index := by
  have read := Reader.numeral?_chars (Numeral.ofInt index.toInt) Reader.delimited_nil
  rw [List.append_nil] at read
  simp only [operandIndex?, raw_ofString_int32Text, read]
  exact int32?_ofInt index

theorem mapM_entries (entries : List (OperandIndex × Tensor)) :
    (entries.map fun entry => (Literal.ofString (int32Text entry.1), entry.2.toJson)).mapM
      (fun member => do return (← member.1.operandIndex?, ← Tensor.ofJson? member.2)) =
        some entries := by
  induction entries with
  | nil => rfl
  | cons entry entries ih =>
    rw [List.map_cons, List.mapM_cons, ih]
    simp [Literal.operandIndex?_int32Text, entry.2.conveys.reads]

theorem TensorContext.conveys (tensors : TensorContext) :
    Conveys TensorContext.ofJson? (TensorContext.toJson tensors) tensors := by
  constructor
  · refine .record fun member here => ?_
    obtain ⟨entry, -, rfl⟩ := List.mem_map.1 here
    exact entry.2.conveys.written
  · have entries := mapM_entries tensors.entries
    simp only [toJson, Json.record, List.map_map, Function.comp_def, TensorContext.ofJson?]
    rw [entries, Option.bind_eq_bind, Option.bind_some, OperandMap.ofList_entries]
    rfl

/-! ## Nodes and partitions -/

theorem OpCode.conveys (code : OpCode) : Conveys ofJson? code.toJson code := by
  cases code with
  | builtin operator =>
    have choice := conveys_choice (BuiltinOperator.ofKey?_key operator) .direct
    refine ⟨.record (by simpa using choice.written), ?_⟩
    simp [toJson, Json.record, ofJson?, choice.reads]
  | custom name =>
    have text := conveys_ofString name
    refine ⟨.record (by simpa using text.written), ?_⟩
    simp [toJson, Json.record, ofJson?, text.reads]

theorem ScheduledNode.conveys {real : Float32 → Json} {node : ScheduledNode}
    (reads : node.options.BetaReadsBack real) (level : Nat) (low : level + 3 < 128) :
    Conveys (ofJson? level) (node.toJsonWith real) node := by
  have id := conveys_ofInt32 node.id
  have op := node.op.conveys
  have inputs := conveys_ofInt32s node.inputs
  have outputs := conveys_ofInt32s node.outputs
  have options := BuiltinOptions.conveys reads (level + 1) low
  constructor
  · refine .record ?_
    simp only [List.forall_mem_cons]
    exact ⟨id.written, op.written, inputs.written, outputs.written, options.written, by simp⟩
  · rw [toJsonWith, ofJson?, record?_record _ (by simp)]
    simp [Record.required, Record.defaulted, member?_cons, id.reads, op.reads, inputs.reads,
      outputs.reads, options.reads]

theorem Partition.conveys {real : Float32 → Json} {partition : Partition}
    (reads : ∀ node ∈ partition.nodes, node.options.BetaReadsBack real) (level : Nat)
    (low : level + 5 < 128) : Conveys (ofJson? level) (partition.toJsonWith real) partition := by
  have inputs := conveys_ofInt32s partition.inputs
  have outputs := conveys_ofInt32s partition.outputs
  have nodes := conveys_list fun node member =>
    ScheduledNode.conveys (reads node member) (level + 2) low
  constructor
  · refine .record ?_
    simp only [List.forall_mem_cons]
    exact ⟨inputs.written, outputs.written, nodes.written, by simp⟩
  · rw [toJsonWith, ofJson?, record?_record _ (by simp)]
    simp [Record.required, member?_cons, inputs.reads, outputs.reads, nodes.reads]

theorem Fixture.conveys {real : Float32 → Json} {fixture : Fixture}
    (reads : ∀ node ∈ fixture.partition.nodes, node.options.BetaReadsBack real) :
    Conveys ofJson? (fixture.toJsonWith real) fixture := by
  have tensors := TensorContext.conveys fixture.tensors
  have partition := Partition.conveys reads 1 (by decide)
  constructor
  · refine .record ?_
    simp only [List.forall_mem_cons]
    exact ⟨tensors.written, partition.written, by simp⟩
  · rw [toJsonWith, ofJson?, record?_record _ (by simp)]
    simp [Record.required, member?_cons, tensors.reads, partition.reads]

/-! ## Settings -/

theorem Settings.conveys (settings : Settings) : Conveys ofJson? settings.toJson settings := by
  have level := conveys_byte settings.debugLevel
  have device := conveys_ofString settings.device
  have plugins := conveys_ofString settings.pluginsPath
  constructor
  · refine .record ?_
    simp only [List.forall_mem_cons]
    exact ⟨level.written, device.written, plugins.written, by simp⟩
  · rw [toJson, ofJson?, record?_record _ (by simp)]
    simp [Record.defaulted, member?_cons, level.reads, device.reads, plugins.reads]

/-! ## Texts -/

/-- Reading the text of a value gives that value: fixtures, settings, and tensors, tensor maps,
nodes, operators and options on their own.  `real` is any way of writing a `beta`, and where options
occur it is assumed to read back; `toJson` is `toJsonWith Json.ofFloat32`. -/
theorem written_forms_read_back (real : Float32 → Json) :
    (∀ fixture : Fixture,
        (∀ node ∈ fixture.partition.nodes, node.options.BetaReadsBack real) →
          Fixture.read? (fixture.toJsonWith real).text = some fixture) ∧
      (∀ settings : Settings, Settings.read? settings.toJson.text = some settings) ∧
      (∀ tensors : TensorContext,
        (Json.read? tensors.toJson.text).bind TensorContext.ofJson? = some tensors) ∧
      (∀ tensor : Tensor, (Json.read? tensor.toJson.text).bind Tensor.ofJson? = some tensor) ∧
      (∀ node : ScheduledNode, node.options.BetaReadsBack real →
        (Json.read? (node.toJsonWith real).text).bind (ScheduledNode.ofJson? 0) = some node) ∧
      (∀ code : OpCode, (Json.read? code.toJson.text).bind OpCode.ofJson? = some code) ∧
      (∀ options : BuiltinOptions, options.BetaReadsBack real →
        (Json.read? (options.toJsonWith real).text).bind (BuiltinOptions.ofJson? 0) =
          some options) := by
  refine ⟨?fixtures, ?settings, ?contexts, ?tensors, ?nodes, ?codes, ?options⟩
  case fixtures => exact fun fixture reads => (Fixture.conveys reads).ofText
  case settings => exact fun settings => settings.conveys.ofText
  case contexts => exact fun tensors => (TensorContext.conveys tensors).ofText
  case tensors => exact fun tensor => tensor.conveys.ofText
  case nodes => exact fun node reads => (ScheduledNode.conveys reads 0 (by decide)).ofText
  case codes => exact fun code => code.conveys.ofText
  case options => exact fun options reads => (BuiltinOptions.conveys reads 0 (by decide)).ofText

namespace RoundTripExample

/-- Two softmaxes behind a custom operator whose name needs escapes, over operands below and above zero.
One `beta` is written `-3.0`, the other `0.10000000149011612`. -/
def fixture : Fixture where
  tensors := .ofList
    [(-7, { tensorType := .uint8, dims := [1, 2], allocation := .mmapRo, data := some [0, 255] }),
      (3, { tensorType := .float32, dims := [1, -1] })]
  partition :=
    { inputs := [-7]
      outputs := [3]
      nodes :=
        [{ id := 0, op := .custom "a\"\\\n\x01é", inputs := [-7], outputs := [2] },
          { id := -1, op := .builtin .softmax, inputs := [2], outputs := [4],
            options := .softmax ⟨-3⟩ },
          { id := 1, op := .builtin .softmax, inputs := [4], outputs := [3],
            options := .softmax ⟨0.1⟩ }] }

end RoundTripExample

open RoundTripExample in
theorem written_forms_read_back_softmax :
    (∀ node ∈ fixture.partition.nodes, node.options.BetaReadsBack Json.ofFloat32) ∧
      Fixture.read? fixture.toJson.text = some fixture := by
  have whole : (Json.ofFloat32 (-3)).float32? = some (-3) := by decide +kernel
  have tenth : (Json.ofFloat32 0.1).float32? = some 0.1 := by decide +kernel
  have nodes : ∀ node ∈ fixture.partition.nodes, node.options.BetaReadsBack Json.ofFloat32 := by
    intro node member softmax options
    simp only [fixture, List.mem_cons, List.not_mem_nil, or_false] at member
    rcases member with rfl | rfl | rfl
    · cases options
    · cases options
      exact whole
    · cases options
      exact tenth
  exact ⟨nodes, (written_forms_read_back Json.ofFloat32).1 fixture nodes⟩

end PartitionLowering
