import Mathlib.Data.List.Induction
import PartitionLowering.Proofs.Bytes.Decoding
import PartitionLowering.Proofs.Engine.Extension

/-!
The promises of a graph that is built call by call.

A call adds one node at the end or changes nothing (`Call.run_cases`).  Each node stands at the position
that its id names, takes its inputs from before it, and is backed (`Graph.Backs`): a constant has the
bytes that its elements take, and inference on the whole graph still gives a node the type that is
stored in it.  Main statement: `calls_atomic_and_sound`, over all runs of calls from the empty graph.
-/

set_option autoImplicit false

namespace PartitionLowering.Graph

def Backs (graph : Graph) (op : Op) (inputs : List NodeId) (type : OutputType) : Prop :=
  match op with
  | .parameter => inputs = []
  | .constant payload =>
    inputs = [] ∧
      (Shape.elementCount? type.1).bind type.2.byteLength? = some payload.length
  | op => graph.infer op inputs = .ok type

structure Sound (graph : Graph) : Prop where
  id_eq : ∀ position node, graph.node? position = some node → node.id = position
  inputs_lt : ∀ position node, graph.node? position = some node →
    ∀ input ∈ node.inputs, input < position
  backed : ∀ position node, graph.node? position = some node →
    graph.Backs node.op node.inputs node.outputType

theorem backs_of_infer {graph : Graph} {op : Op} {inputs : List NodeId} {type : OutputType}
    (inferred : graph.infer op inputs = .ok type) : graph.Backs op inputs type := by
  obtain ⟨nodes, _, typed⟩ := infer_eq_ok.1 inferred
  cases op with
  | parameter => simp [Op.infer] at typed
  | constant payload => simp [Op.infer] at typed
  | _ => exact inferred

theorem Backs.mono {before after : Graph} (grown : before.Extends after) {op : Op}
    {inputs : List NodeId} {type : OutputType} (backs : before.Backs op inputs type) :
    after.Backs op inputs type := by
  cases op with
  | parameter => exact backs
  | constant payload => exact backs
  | _ => exact grown.infer backs

theorem Backs.inputs_lt {graph : Graph} {op : Op} {inputs : List NodeId} {type : OutputType}
    (backs : graph.Backs op inputs type) : ∀ input ∈ inputs, input < graph.size := by
  have resolved : ∀ {op : Op}, graph.infer op inputs = .ok type →
      ∀ input ∈ inputs, input < graph.size := by
    intro op inferred
    obtain ⟨nodes, denoted, _⟩ := infer_eq_ok.1 inferred
    exact lt_size_of_denote denoted
  cases op with
  | parameter =>
    have none : inputs = [] := backs
    simp [none]
  | constant payload =>
    have none : inputs = [] := backs.1
    simp [none]
  | _ => exact resolved backs

theorem sound_empty : Sound {} := by
  constructor <;> intro position node found <;> simp [node?] at found

theorem Sound.push {graph : Graph} (sound : graph.Sound) {op : Op} {inputs : List NodeId}
    {type : OutputType} (backs : graph.Backs op inputs type) :
    (graph.push op inputs type).2.Sound := by
  have grown := extends_push graph op inputs type
  constructor
  · intro position node found
    rcases node?_push_cases graph op inputs type found with old | ⟨rfl, rfl⟩
    · exact sound.id_eq position node old
    · rfl
  · intro position node found
    rcases node?_push_cases graph op inputs type found with old | ⟨rfl, rfl⟩
    · exact sound.inputs_lt position node old
    · exact backs.inputs_lt
  · intro position node found
    rcases node?_push_cases graph op inputs type found with old | ⟨rfl, rfl⟩
    · exact (sound.backed position node old).mono grown
    · exact backs.mono grown

/-! ## Calls -/

inductive Call
  | parameter (elementType : ElementType) (shape : Shape)
  | constant (elementType : ElementType) (shape : Shape) (payload : List UInt8)
  | int32Constant (values : List Int32)
  | int64Constant (values : List Int64)
  | op (op : Op) (inputs : List NodeId)

namespace Call

/-- Lists of integers are shorter than any memory. -/
def Short : Call → Prop
  | .int32Constant values => values.length < Nat.pow 2 57
  | .int64Constant values => values.length < Nat.pow 2 57
  | _ => True

def added (graph : Graph) : Call → Except ShapeError (Node × Graph)
  | .parameter elementType shape => .ok (graph.addParameter elementType shape)
  | .constant elementType shape payload => graph.addConstant elementType shape payload
  | .int32Constant values => .ok (graph.addInt32Constant values)
  | .int64Constant values => .ok (graph.addInt64Constant values)
  | .op operation inputs => graph.addOp operation inputs

def run (call : Call) (graph : Graph) : Except ShapeError NodeId × Graph :=
  match call.added graph with
  | .ok (node, longer) => (.ok node.id, longer)
  | .error error => (.error error, graph)

/-- The call refuses and changes nothing, or adds one node at the end and answers with its id. -/
def Atomic (call : Call) (graph : Graph) : Prop :=
  (∃ error, call.run graph = (.error error, graph)) ∨
    ∃ node, call.run graph = (.ok graph.size, ⟨graph.nodes ++ [node]⟩)

end Call

def afterCalls (calls : List Call) : Graph :=
  calls.foldl (fun graph call => (call.run graph).2) {}

/-! ## One call -/

theorem bytesOfBits_bytes (count width : Nat) : Size.bytesOfBits (count * (8 * width)) = count * width := by
  rw [Size.bytesOfBits, Nat.mul_left_comm, Nat.mul_mod_right, if_pos rfl,
    Nat.mul_div_cancel_left _ (by decide), Nat.add_zero]

theorem byteLength_of_values {elementType : ElementType} {count width : Nat}
    (bits : elementType.bitWidth = 8 * width) (narrow : width ≤ 8) (short : count < Nat.pow 2 57) :
    (Shape.elementCount? [count]).bind elementType.byteLength? = some (count * width) := by
  have limit : Nat.pow 2 57 = 144115188075855872 := rfl
  rw [limit] at short
  have bytes : count * width ≤ count * 8 := Nat.mul_le_mul_left count narrow
  have room : count * (8 * width) < Size.bound := by
    have regroup := Nat.mul_left_comm count 8 width
    simp only [Size.bound]
    omega
  have counted : Shape.elementCount? [count] = some count := by
    have small : count < Size.bound := by
      simp only [Size.bound]
      omega
    simp [Shape.elementCount?, Size.product?, Size.mul?, small]
  simp [counted, ElementType.byteLength?, Size.packed?, Size.mul?, bits, room, bytesOfBits_bytes]

theorem backs_int32Constant (graph : Graph) {values : List Int32} (short : values.length < Nat.pow 2 57) :
    graph.Backs (.constant (values.flatMap LittleEndian.encodeInt32)) [] ([values.length], .i32) := by
  refine ⟨rfl, ?_⟩
  have bits : ElementType.i32.bitWidth = 8 * 4 := rfl
  have bytes : (values.flatMap LittleEndian.encodeInt32).length = values.length * 4 := by
    simp [List.length_flatMap]
  rw [byteLength_of_values bits (by decide) short, bytes]

theorem backs_int64Constant (graph : Graph) {values : List Int64} (short : values.length < Nat.pow 2 57) :
    graph.Backs (.constant (values.flatMap LittleEndian.encodeInt64)) [] ([values.length], .i64) := by
  refine ⟨rfl, ?_⟩
  have bits : ElementType.i64.bitWidth = 8 * 8 := rfl
  have bytes : (values.flatMap LittleEndian.encodeInt64).length = values.length * 8 := by
    simp [List.length_flatMap]
  rw [byteLength_of_values bits (by decide) short, bytes]

theorem integers?_addInt32Constant (graph : Graph) (values : List Int32) :
    (graph.addInt32Constant values).2.integers? (graph.addInt32Constant values).1.id =
      some (values.map Int32.toInt) :=
  Option.bind_eq_some_iff.2 ⟨_, graph.node?_push_self _ _ _, Node.integers?_int32 _ _ rfl rfl⟩

theorem integers?_addInt64Constant (graph : Graph) (values : List Int64) :
    (graph.addInt64Constant values).2.integers? (graph.addInt64Constant values).1.id =
      some (values.map Int64.toInt) :=
  Option.bind_eq_some_iff.2 ⟨_, graph.node?_push_self _ _ _, Node.integers?_int64 _ _ rfl rfl⟩

theorem addConstant_eq_ok {graph : Graph} {elementType : ElementType} {shape : Shape}
    {payload : List UInt8} {result : Node × Graph} :
    graph.addConstant elementType shape payload = .ok result ↔
      (Shape.elementCount? shape).bind elementType.byteLength? = some payload.length ∧
        result = graph.push (.constant payload) [] (shape, elementType) := by
  rw [addConstant]
  cases counted : (Shape.elementCount? shape).bind elementType.byteLength? with
  | none => simp
  | some expected =>
    by_cases same : payload.length = expected
    · simp [same, eq_comm]
    · simp [same, Ne.symm same]

theorem addOp_eq_ok {graph : Graph} {op : Op} {inputs : List NodeId} {result : Node × Graph} :
    graph.addOp op inputs = .ok result ↔
      ∃ type, graph.infer op inputs = .ok type ∧ result = graph.push op inputs type := by
  rw [addOp]
  cases inferred : graph.infer op inputs with
  | error error => simp [bind, Except.bind]
  | ok type => simp [bind, Except.bind, pure, Except.pure, eq_comm]

/-- What an operation that is added leaves: itself, behind the nodes there were, with the type inferred. -/
theorem of_addOp {graph longer : Graph} {op : Op} {inputs : List NodeId} {node : Node}
    (added : graph.addOp op inputs = .ok (node, longer)) :
    graph.infer op inputs = .ok node.outputType ∧ graph.Extends longer ∧
      longer.node? node.id = some node := by
  obtain ⟨type, inferred, pushed⟩ := addOp_eq_ok.1 added
  cases pushed
  exact ⟨inferred, extends_push graph op inputs type, node?_push_self graph op inputs type⟩

theorem Call.added_cases {call : Call} (short : call.Short) (graph : Graph) :
    (∃ error, call.added graph = .error error) ∨
      ∃ op inputs type, call.added graph = .ok (graph.push op inputs type) ∧
        graph.Backs op inputs type := by
  cases call with
  | parameter elementType shape => exact .inr ⟨_, _, _, rfl, rfl⟩
  | int32Constant values => exact .inr ⟨_, _, _, rfl, backs_int32Constant graph short⟩
  | int64Constant values => exact .inr ⟨_, _, _, rfl, backs_int64Constant graph short⟩
  | constant elementType shape payload =>
    cases outcome : graph.addConstant elementType shape payload with
    | error error => exact .inl ⟨error, outcome⟩
    | ok result =>
      obtain ⟨counted, rfl⟩ := addConstant_eq_ok.1 outcome
      exact .inr ⟨_, _, _, outcome, rfl, counted⟩
  | op op inputs =>
    cases outcome : graph.addOp op inputs with
    | error error => exact .inl ⟨error, outcome⟩
    | ok result =>
      obtain ⟨type, inferred, rfl⟩ := addOp_eq_ok.1 outcome
      exact .inr ⟨_, _, _, outcome, backs_of_infer inferred⟩

/-- What a call answers and leaves behind. -/
theorem Call.run_cases {call : Call} (short : call.Short) (graph : Graph) :
    (∃ error, call.run graph = (.error error, graph)) ∨
      ∃ op inputs type, call.run graph = (.ok graph.size, (graph.push op inputs type).2) ∧
        graph.Backs op inputs type := by
  rcases Call.added_cases short graph with ⟨error, outcome⟩ | ⟨op, inputs, type, outcome, backs⟩
  · left
    exact ⟨error, by rw [Call.run, outcome]⟩
  · right
    exact ⟨op, inputs, type, by rw [Call.run, outcome]; rfl, backs⟩

/-! ## Runs of calls -/

theorem sound_afterCalls {calls : List Call} (short : ∀ call ∈ calls, call.Short) :
    (afterCalls calls).Sound := by
  -- from the end: the last call finds a sound graph
  induction calls using List.reverseRecOn with
  | nil => exact sound_empty
  | append_singleton earlier call ih =>
    have before : (afterCalls earlier).Sound := by
      apply ih
      intro other member
      exact short other (List.mem_append_left _ member)
    have last : call.Short := short call (by simp)
    have step : afterCalls (earlier ++ [call]) = (call.run (afterCalls earlier)).2 := by
      simp [afterCalls]
    rw [step]
    rcases Call.run_cases last (afterCalls earlier) with ⟨error, outcome⟩ | ⟨op, inputs, type, outcome, backs⟩
    · rw [outcome]
      exact before
    · rw [outcome]
      exact before.push backs

theorem calls_atomic_and_sound (calls : List Call) (short : ∀ call ∈ calls, call.Short) :
    (∀ earlier call later, calls = earlier ++ call :: later →
      call.Atomic (afterCalls earlier)) ∧ (afterCalls calls).Sound := by
  refine ⟨?_, sound_afterCalls short⟩
  intro earlier call later split
  have short_here : call.Short := short call (by simp [split])
  rcases Call.run_cases short_here (afterCalls earlier) with refused | ⟨op, inputs, type, outcome, _⟩
  · exact .inl refused
  · exact .inr ⟨_, outcome⟩

/-- A pattern, a reshape by it and a transpose of a node that is not there. -/
def reshapeCalls : List Call :=
  [.parameter .f32 [2, 3, 4], .int32Constant [0, -1], .op (.reshape true) [0, 1],
    .op .transpose [2, 9]]

theorem calls_atomic_and_sound_reshape :
    (∀ call ∈ reshapeCalls, call.Short) ∧
      (∀ earlier call later, reshapeCalls = earlier ++ call :: later →
        call.Atomic (afterCalls earlier)) ∧
      (afterCalls reshapeCalls).Sound ∧ (afterCalls reshapeCalls).size = 3 := by
  have short : ∀ call ∈ reshapeCalls, call.Short := by
    simp [reshapeCalls, Call.Short]
  obtain ⟨atomic, sound⟩ := calls_atomic_and_sound reshapeCalls short
  exact ⟨short, atomic, sound, by decide⟩

end PartitionLowering.Graph
